/-
This file gives the grammar of blocks, apart from the way in which they are read:

    block  :=  item*
    item   :=  simple
             |  /if block (/elseif block)* [/else block] /endif
             |  loop block /done

A word of the grammar is a list of statements, each of which counts by its kind alone. A second
relation says beside that to which tree the statements belong, each compiled by itself. Words are
those lists that have a tree, if only every statement of them compiles.

Both relations limit how many blocks are open at one place.
-/

import SlashScript.Proofs.Blocks.Basic

namespace SlashScript

namespace Statement

/-- A line and the statements of the block under it. -/
structure Part where
  line : SourceStatement
  body : List SourceStatement

/-- The statements of a part. -/
def Part.lines (part : Part) : List SourceStatement :=
  part.line :: part.body

/-- The grammar, by the kinds of the statements; `level` more blocks may be open around each of
them. -/
inductive Word : Nat → List SourceStatement → Prop where
  | nil {level : Nat} : Word level []
  | simple {level : Nat} {line : SourceStatement} {rest : List SourceStatement}
    (kind : Kind.ofText line.text = .simple) (ofRest : Word level rest) :
    Word level (line :: rest)
  | choose {level : Nat} (first : Part) (others : List Part) (last : Option Part)
    (closer : SourceStatement) {rest : List SourceStatement}
    (firstKind : Kind.ofText first.line.text = .openIf)
    (othersKind : ∀ part ∈ others, Kind.ofText part.line.text = .elseIf)
    (lastKind : ∀ part ∈ last, Kind.ofText part.line.text = .otherwise)
    (closerKind : Kind.ofText closer.text = .endIf) (ofFirst : Word level first.body)
    (ofOthers : ∀ part ∈ others, Word level part.body)
    (ofLast : ∀ part ∈ last, Word level part.body) (ofRest : Word (level + 1) rest) :
    Word (level + 1) (first.lines ++ others.flatMap Part.lines ++
      last.toList.flatMap Part.lines ++ closer :: rest)
  | loop {level : Nat} (head : Part) (closer : SourceStatement) {rest : List SourceStatement}
    (headKind : Kind.ofText head.line.text = .openLoop)
    (closerKind : Kind.ofText closer.text = .endLoop) (ofBody : Word level head.body)
    (ofRest : Word (level + 1) rest) : Word (level + 1) (head.lines ++ closer :: rest)

/-- A part with the condition and the block that it stands for. -/
structure Arm extends Part where
  condition : Expression
  block : Block

/-- What an arm leaves in the tree. -/
def Arm.branch (arm : Arm) : Expression × Block :=
  (arm.condition, arm.block)

/-- The statements of an arm. -/
def Arm.lines (arm : Arm) : List SourceStatement :=
  arm.toPart.lines

/-- The grammar with the tree of each word; every statement is compiled by itself. -/
inductive Spells : Nat → List SourceStatement → Block → Prop where
  | nil {level : Nat} : Spells level [] []
  | plain {level : Nat} {line : SourceStatement} {rest : List SourceStatement}
    {statement : Statement} {block : Block} (compiles : Compiles line (.plain statement))
    (ofRest : Spells level rest block) : Spells level (line :: rest) (statement :: block)
  | choose {level : Nat} (first : Arm) (others : List Arm) (last : Option Part)
    (otherwise : Block) (closer : SourceStatement) {rest : List SourceStatement} {block : Block}
    (firstCompiles : Compiles first.line (.openIf first.condition))
    (othersCompile : ∀ arm ∈ others, Compiles arm.line (.elseIf arm.condition))
    (lastCompiles : ∀ part ∈ last, Compiles part.line .otherwise)
    (noLast : last = none → otherwise = []) (closes : Compiles closer .endIf)
    (ofFirst : Spells level first.body first.block)
    (ofOthers : ∀ arm ∈ others, Spells level arm.body arm.block)
    (ofLast : ∀ part ∈ last, Spells level part.body otherwise)
    (ofRest : Spells (level + 1) rest block) :
    Spells (level + 1) (first.lines ++ others.flatMap Arm.lines ++
        last.toList.flatMap Part.lines ++ closer :: rest)
      (.choose ((first :: others).map Arm.branch) otherwise :: block)
  | loop {level : Nat} (head : Part) (loop : Loop) (body : Block) (closer : SourceStatement)
    {rest : List SourceStatement} {block : Block}
    (headCompiles : Compiles head.line (.openLoop loop)) (closes : Compiles closer .endLoop)
    (ofBody : Spells level head.body body) (ofRest : Spells (level + 1) rest block) :
    Spells (level + 1) (head.lines ++ closer :: rest) (loop.around body :: block)

/-! ### Words and their trees -/

theorem Spells.append {level : Nat} {lines lines' : List SourceStatement} {block block' : Block}
    (spells : Spells level lines block) (more : Spells level lines' block') :
    Spells level (lines ++ lines') (block ++ block') := by
  induction spells with
  | nil => exact more
  | plain compiles _ inductionHypothesis => exact .plain compiles (inductionHypothesis more)
  | choose first others last otherwise closer firstCompiles othersCompile lastCompiles noLast
    closes ofFirst ofOthers ofLast _ _ _ _ inductionHypothesis =>
    rw [List.append_assoc, List.cons_append, List.cons_append]
    exact .choose first others last otherwise closer firstCompiles othersCompile lastCompiles
      noLast closes ofFirst ofOthers ofLast (inductionHypothesis more)
  | loop head loop body closer headCompiles closes ofBody _ _ inductionHypothesis =>
    rw [List.append_assoc, List.cons_append, List.cons_append]
    exact .loop head loop body closer headCompiles closes ofBody (inductionHypothesis more)

theorem flatMap_lines (arms : List Arm) :
    arms.flatMap Arm.lines = (arms.map Arm.toPart).flatMap Part.lines := by
  rw [List.flatMap_map]
  rfl

/-- What has a tree is a word. -/
theorem Spells.word {level : Nat} {lines : List SourceStatement} {block : Block}
    (spells : Spells level lines block) : Word level lines := by
  induction spells with
  | nil => exact .nil
  | plain compiles _ inductionHypothesis => exact .simple compiles.kind inductionHypothesis
  | choose first others last otherwise closer firstCompiles othersCompile lastCompiles noLast
    closes _ _ _ _ ofFirst ofOthers ofLast ofRest =>
    rw [flatMap_lines]
    exact .choose first.toPart (others.map Arm.toPart) last closer firstCompiles.kind
      (List.forall_mem_map.mpr fun arm member => (othersCompile arm member).kind)
      (fun part member => (lastCompiles part member).kind) closes.kind ofFirst
      (List.forall_mem_map.mpr ofOthers) ofLast ofRest
  | loop head loop body closer headCompiles closes _ _ ofBody ofRest =>
    exact .loop head closer headCompiles.kind closes.kind ofBody ofRest

/-- Parts that have trees and compile as further branches are arms. -/
theorem exists_arms {level : Nat} {parts : List Part}
    (compile : ∀ part ∈ parts, ∃ condition, Compiles part.line (.elseIf condition))
    (spell : ∀ part ∈ parts, ∃ block, Spells level part.body block) :
    ∃ arms : List Arm, arms.map Arm.toPart = parts ∧
      (∀ arm ∈ arms, Compiles arm.line (.elseIf arm.condition)) ∧
        ∀ arm ∈ arms, Spells level arm.body arm.block := by
  induction parts with
  | nil => exact ⟨[], rfl, by simp, by simp⟩
  | cons part parts inductionHypothesis =>
    obtain ⟨⟨condition, compiles⟩, othersCompile⟩ := List.forall_mem_cons.mp compile
    obtain ⟨⟨block, spells⟩, othersSpell⟩ := List.forall_mem_cons.mp spell
    obtain ⟨arms, rfl, armsCompile, armsSpell⟩ := inductionHypothesis othersCompile othersSpell
    exact ⟨⟨part, condition, block⟩ :: arms, rfl, List.forall_mem_cons.mpr ⟨compiles, armsCompile⟩,
      List.forall_mem_cons.mpr ⟨spells, armsSpell⟩⟩

/-- What a piece holds beside its kind. -/
def Kind.Content : Kind → Type
  | simple => Statement
  | openIf | elseIf => Expression
  | openLoop => Loop
  | otherwise | endIf | endLoop => Unit

/-- The piece of a kind with a given content. -/
def Piece.ofKind : (kind : Kind) → kind.Content → Piece
  | .simple, statement => .plain statement
  | .openIf, condition => .openIf condition
  | .openLoop, loop => .openLoop loop
  | .elseIf, condition => .elseIf condition
  | .otherwise, _ => .otherwise
  | .endIf, _ => .endIf
  | .endLoop, _ => .endLoop

theorem Piece.exists_ofKind (piece : Piece) : ∃ content, ofKind piece.kind content = piece := by
  cases piece with
  | plain statement => exact ⟨statement, rfl⟩
  | openIf condition => exact ⟨condition, rfl⟩
  | openLoop loop => exact ⟨loop, rfl⟩
  | elseIf condition => exact ⟨condition, rfl⟩
  | otherwise | endIf | endLoop => exact ⟨(), rfl⟩

/-- A statement that compiles at all compiles to a piece of its kind. -/
theorem Compiles.exists_ofKind {line : SourceStatement} {kind : Kind}
    (compiles : ∃ piece, Compiles line piece) (isKind : Kind.ofText line.text = kind) :
    ∃ content, Compiles line (.ofKind kind content) := by
  obtain ⟨piece, compiles⟩ := compiles
  obtain ⟨content, same⟩ := piece.exists_ofKind
  rw [← isKind, compiles.kind]
  exact ⟨content, same.symm ▸ compiles⟩

/-- The last part of a conditional, if there is one, has a tree. -/
theorem exists_otherwise {level : Nat} {last : Option Part}
    (kind : ∀ part ∈ last, Kind.ofText part.line.text = .otherwise)
    (compile : ∀ part ∈ last.toList, ∀ line ∈ part.lines, ∃ piece, Compiles line piece)
    (spell : ∀ part ∈ last, (∀ line ∈ part.body, ∃ piece, Compiles line piece) →
      ∃ block, Spells level part.body block) :
    ∃ otherwise : Block, (last = none → otherwise = []) ∧
      (∀ part ∈ last, Compiles part.line .otherwise) ∧
        ∀ part ∈ last, Spells level part.body otherwise := by
  cases last with
  | none => exact ⟨[], fun _ => rfl, nofun, nofun⟩
  | some part =>
    obtain ⟨lineCompiles, bodyCompile⟩ :=
      List.forall_mem_cons.mp (compile part (Option.mem_toList.mpr rfl))
    obtain ⟨_, compiles⟩ := Compiles.exists_ofKind lineCompiles (kind part rfl)
    obtain ⟨block, spells⟩ := spell part rfl bodyCompile
    refine ⟨block, nofun, ?_, ?_⟩
    · rintro _ ⟨⟩
      exact compiles
    · rintro _ ⟨⟩
      exact spells

/-- A word whose statements compile has a tree. -/
theorem Word.exists_spells {level : Nat} {lines : List SourceStatement} (word : Word level lines)
    (compile : ∀ line ∈ lines, ∃ piece, Compiles line piece) :
    ∃ block, Spells level lines block := by
  induction word with
  | nil => exact ⟨[], .nil⟩
  | simple kind _ ofRest =>
    obtain ⟨lineCompiles, restCompile⟩ := List.forall_mem_cons.mp compile
    obtain ⟨statement, compiles⟩ := Compiles.exists_ofKind lineCompiles kind
    obtain ⟨block, spells⟩ := ofRest restCompile
    exact ⟨_, .plain compiles spells⟩
  | choose first others last closer firstKind othersKind lastKind closerKind _ _ _ _ ofFirst
    ofOthers ofLast ofRest =>
    obtain ⟨before, after⟩ := List.forall_mem_append.mp compile
    obtain ⟨before, lastCompile⟩ := List.forall_mem_append.mp before
    obtain ⟨firstCompile, othersCompile⟩ := List.forall_mem_append.mp before
    obtain ⟨openerCompiles, firstCompile⟩ := List.forall_mem_cons.mp firstCompile
    obtain ⟨closerCompiles, restCompile⟩ := List.forall_mem_cons.mp after
    obtain ⟨condition, opens⟩ := Compiles.exists_ofKind openerCompiles firstKind
    obtain ⟨_, closes⟩ := Compiles.exists_ofKind closerCompiles closerKind
    obtain ⟨firstBlock, ofFirst⟩ := ofFirst firstCompile
    obtain ⟨block, ofRest⟩ := ofRest restCompile
    have othersCompile := fun part member => List.forall_mem_cons.mp
      (List.forall_mem_flatMap.mp othersCompile part member)
    obtain ⟨arms, rfl, divide, ofArms⟩ := exists_arms
      (fun part member => Compiles.exists_ofKind (othersCompile part member).1
        (othersKind part member))
      fun part member => ofOthers part member (othersCompile part member).2
    obtain ⟨otherwise, noLast, lastDivides, ofLast⟩ :=
      exists_otherwise lastKind (List.forall_mem_flatMap.mp lastCompile) ofLast
    rw [← flatMap_lines]
    exact ⟨_, .choose ⟨first, condition, firstBlock⟩ arms last otherwise closer opens divide
      lastDivides noLast closes ofFirst ofArms ofLast ofRest⟩
  | loop head closer headKind closerKind _ _ ofBody ofRest =>
    obtain ⟨headCompile, after⟩ := List.forall_mem_append.mp compile
    obtain ⟨headCompiles, bodyCompile⟩ := List.forall_mem_cons.mp headCompile
    obtain ⟨closerCompiles, restCompile⟩ := List.forall_mem_cons.mp after
    obtain ⟨loop, opens⟩ := Compiles.exists_ofKind headCompiles headKind
    obtain ⟨_, closes⟩ := Compiles.exists_ofKind closerCompiles closerKind
    obtain ⟨body, ofBody⟩ := ofBody bodyCompile
    obtain ⟨block, ofRest⟩ := ofRest restCompile
    exact ⟨_, .loop head loop body closer opens closes ofBody ofRest⟩

end Statement

end SlashScript
