/-
This file shows that nothing of a script is lost in its tree. Written out in order, with the lines
that open, divide and close blocks in their places, a tree gives back the compiled statements of
its text one for one. Only one thing does not show in a tree: whether a conditional has no last
block or an empty one.
-/

import Mathlib.Data.List.Forall2
import SlashScript.Proofs.Blocks.Reading

namespace SlashScript

namespace Statement

mutual

/-- A statement written out as pieces. -/
def pieces : Statement → List Piece
  | choose branches otherwise =>
    branchPieces .openIf branches ++
      ((if otherwise.isEmpty then [] else .otherwise :: blockPieces otherwise) ++ [.endIf])
  | whileLoop condition body =>
    .openLoop (.whileLoop condition) :: (blockPieces body ++ [.endLoop])
  | forLoop name first last body =>
    .openLoop (.forLoop name first last) :: (blockPieces body ++ [.endLoop])
  | statement => [.plain statement]

/-- A block written out as pieces. -/
def blockPieces : List Statement → List Piece
  | [] => []
  | statement :: rest => statement.pieces ++ blockPieces rest

/-- The branches of a conditional written out as pieces; this is how the first one starts. -/
def branchPieces (start : Expression → Piece) : List (Expression × List Statement) → List Piece
  | [] => []
  | (condition, body) :: rest =>
    start condition :: (blockPieces body ++ branchPieces .elseIf rest)

end

/-- The pieces that start the last block of a conditional. -/
def Piece.isDivider : Piece → Bool
  | otherwise => true
  | _ => false

/-- The pieces without the divider before each last block that is empty. -/
def withoutEmptyLast : List Piece → List Piece
  | [] => []
  | .otherwise :: .endIf :: rest => .endIf :: withoutEmptyLast rest
  | piece :: rest => piece :: withoutEmptyLast rest

theorem withoutEmptyLast_otherwise {piece : Piece} (notEnd : piece ≠ .endIf)
    (rest : List Piece) :
    withoutEmptyLast (.otherwise :: piece :: rest) =
      .otherwise :: withoutEmptyLast (piece :: rest) := by
  cases piece with
  | endIf => exact absurd rfl notEnd
  | _ => rfl

/-- The statements compile, each by itself, to these pieces, apart from the dividers before empty
last blocks. -/
def Flattens (lines : List SourceStatement) (flat : List Piece) : Prop :=
  ∃ pieces, List.Forall₂ Compiles lines pieces ∧
    ∀ rest, withoutEmptyLast (pieces ++ rest) = flat ++ withoutEmptyLast rest

namespace Flattens

variable {lines lines' : List SourceStatement} {flat flat' : List Piece}

theorem nil : Flattens [] [] :=
  ⟨[], .nil, fun _ => rfl⟩

theorem append (flattens : Flattens lines flat) (more : Flattens lines' flat') :
    Flattens (lines ++ lines') (flat ++ flat') := by
  obtain ⟨pieces, compile, flattened⟩ := flattens
  obtain ⟨pieces', compile', flattened'⟩ := more
  refine ⟨pieces ++ pieces', List.rel_append compile compile', fun rest => ?_⟩
  rw [List.append_assoc, flattened, flattened', List.append_assoc]

theorem single {line : SourceStatement} {piece : Piece} (compiles : Compiles line piece)
    (notDivider : piece.isDivider = false) : Flattens [line] [piece] := by
  refine ⟨[piece], .cons compiles .nil, fun rest => ?_⟩
  cases piece with
  | otherwise => cases notDivider
  | _ => rfl

theorem cons {line : SourceStatement} {piece : Piece} (compiles : Compiles line piece)
    (notDivider : piece.isDivider = false) (more : Flattens lines flat) :
    Flattens (line :: lines) (piece :: flat) :=
  (single compiles notDivider).append more

end Flattens

theorem pieces_of_simple {statement : Statement} (simple : statement.isSimple = true) :
    statement.pieces = [.plain statement] := by
  cases statement with
  | choose | whileLoop | forLoop => cases simple
  | _ => rfl

theorem Loop.pieces_around (loop : Loop) (body : Block) :
    (loop.around body).pieces = .openLoop loop :: (blockPieces body ++ [.endLoop]) := by
  cases loop with
  | whileLoop | forLoop => rfl

/-- A block without statements is empty, and no other starts with the end of a conditional. -/
theorem Spells.nil_or_cons {level : Nat} {lines : List SourceStatement} {block : Block}
    (spells : Spells level lines block) :
    lines = [] ∧ block = [] ∨ ∃ line lines', lines = line :: lines' ∧
      Kind.ofText line.text ≠ .endIf ∧ block.isEmpty = false := by
  cases spells with
  | nil => exact .inl ⟨rfl, rfl⟩
  | plain compiles => exact .inr ⟨_, _, rfl, by rw [compiles.kind]; nofun, rfl⟩
  | choose _ _ _ _ _ opens => exact .inr ⟨_, _, rfl, by rw [opens.kind]; nofun, rfl⟩
  | loop _ _ _ _ opens => exact .inr ⟨_, _, rfl, by rw [opens.kind]; nofun, rfl⟩

/-- The divider of a last block shows if the block is not empty. -/
theorem Flattens.divider {level : Nat} {part : Part} {closer : SourceStatement} {block : Block}
    (divides : Compiles part.line .otherwise) (closes : Compiles closer .endIf)
    (spells : Spells level part.body block) (flattens : Flattens part.body (blockPieces block)) :
    Flattens (part.lines ++ [closer])
      ((if block.isEmpty then [] else .otherwise :: blockPieces block) ++ [.endIf]) := by
  obtain ⟨pieces, compile, flattened⟩ := flattens
  refine ⟨.otherwise :: (pieces ++ [.endIf]),
    .cons divides (List.rel_append compile (.cons closes .nil)), fun rest => ?_⟩
  rcases spells.nil_or_cons with ⟨empty, rfl⟩ | ⟨line, lines, nonempty, notEnd, isBlock⟩
  · rw [empty] at compile
    cases compile
    rfl
  · rw [nonempty] at compile
    cases compile with
    | @cons _ piece _ pieces compiles _ =>
      have notEnd : piece ≠ .endIf := by
        rintro rfl
        exact notEnd compiles.kind
      have inside := flattened (.endIf :: rest)
      rw [isBlock, List.cons_append, List.append_assoc, List.cons_append,
        withoutEmptyLast_otherwise notEnd]
      simpa [withoutEmptyLast] using inside

theorem Flattens.arms {arms : List Arm}
    (compile : ∀ arm ∈ arms, Compiles arm.line (.elseIf arm.condition))
    (flatten : ∀ arm ∈ arms, Flattens arm.body (blockPieces arm.block)) :
    Flattens (arms.flatMap Arm.lines) (branchPieces .elseIf (arms.map Arm.branch)) := by
  induction arms with
  | nil => exact .nil
  | cons arm arms inductionHypothesis =>
    obtain ⟨compiles, othersCompile⟩ := List.forall_mem_cons.mp compile
    obtain ⟨flattens, othersFlatten⟩ := List.forall_mem_cons.mp flatten
    exact .cons compiles rfl (flattens.append (inductionHypothesis othersCompile othersFlatten))

theorem Spells.flattens {level : Nat} {lines : List SourceStatement} {block : Block}
    (spells : Spells level lines block) : Flattens lines (blockPieces block) := by
  induction spells with
  | nil => exact .nil
  | plain compiles _ ofRest =>
    rw [blockPieces, pieces_of_simple compiles.simple]
    exact .cons compiles rfl ofRest
  | choose first others last otherwise closer firstCompiles othersCompile lastCompiles noLast
    closes _ _ spellsLast _ ofFirst ofOthers ofLast ofRest =>
    have arms : Flattens (first.lines ++ others.flatMap Arm.lines)
        (branchPieces .openIf ((first :: others).map Arm.branch)) :=
      .cons firstCompiles rfl (ofFirst.append (.arms othersCompile ofOthers))
    have ended : Flattens (last.toList.flatMap Part.lines ++ [closer])
        ((if otherwise.isEmpty then [] else .otherwise :: blockPieces otherwise) ++ [.endIf]) := by
      cases last with
      | none =>
        cases noLast rfl
        exact .single closes rfl
      | some part =>
        have divided := Flattens.divider (lastCompiles part rfl) closes (spellsLast part rfl)
          (ofLast part rfl)
        simpa using divided
    have whole := (arms.append ended).append ofRest
    rw [blockPieces, pieces]
    simpa using whole
  | loop head loop body closer headCompiles closes _ _ ofBody ofRest =>
    have closed := (ofBody.append (.single closes rfl)).append ofRest
    rw [blockPieces, Loop.pieces_around]
    simpa [Part.lines] using Flattens.cons headCompiles rfl closed

/-- A text is read as a block only if its statements are a word of the grammar; then they compile
one for one to the pieces of the block. Words whose statements compile are all read. -/
theorem parse_blocks (source : List Char) :
    (∀ block, parse source = .ok block →
        Word maxNesting (Layout.statements source) ∧
          ∃ pieces, List.Forall₂ Compiles (Layout.statements source) pieces ∧
            blockPieces block = withoutEmptyLast pieces) ∧
      (Word maxNesting (Layout.statements source) →
        (∀ line ∈ Layout.statements source, ∃ piece, Compiles line piece) →
          ∃ block, parse source = .ok block) := by
  constructor
  · intro block result
    have spells := ofSource_eq_ok_iff.mp result
    obtain ⟨pieces, compile, flattened⟩ := spells.flattens
    refine ⟨spells.word, pieces, compile, ?_⟩
    have whole := flattened []
    rw [List.append_nil, withoutEmptyLast, List.append_nil] at whole
    exact whole.symm
  · intro word compile
    obtain ⟨block, spells⟩ := word.exists_spells compile
    exact ⟨block, ofSource_eq_ok_iff.mpr spells⟩

theorem parse_blocks_conditional :
    Word maxNesting (Layout.statements "/if x\ny %; z\n/else\n/endif".toList) ∧
      ∃ pieces, List.Forall₂ Compiles (Layout.statements "/if x\ny %; z\n/else\n/endif".toList)
          pieces ∧
        blockPieces [.choose [(.named "x", [.echo ⟨[.literal "y"]⟩, .echo ⟨[.literal "z"]⟩])] []] =
          withoutEmptyLast pieces :=
  (parse_blocks "/if x\ny %; z\n/else\n/endif".toList).1 _ (by cbv)

end Statement

end SlashScript
