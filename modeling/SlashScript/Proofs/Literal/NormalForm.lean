/-
This file proves that compiled templates are in normal form. The pieces of a text are plain
characters and substitutions; no substitution is a literal, names in it are not empty and arguments
are counted from one. Gathering the pieces makes one literal of the characters between two
substitutions, and none where there are no characters. The characters that are not yet put into a
part are carried through the induction: with any of them in front, the parts are in normal form.

Arguments are found by the index less one. This is a subtraction that fails for the index zero, and
the normal form is what keeps it from failing: an expansion in which it may fail is the same as the
expansion.
-/

import Mathlib.Data.Nat.PSub
import SlashScript.Proofs.Literal.Escaped
import SlashScript.Proofs.Rounding.Written

namespace SlashScript

/-! ### Normal forms -/

namespace TemplatePart

/-- The parts that are plain text. -/
def isLiteral : TemplatePart → Bool
  | literal _ => true
  | _ => false

/-- Plain text and names are not empty, and arguments are counted from one. -/
def IsProper : TemplatePart → Prop
  | literal text => text ≠ ""
  | named name _ => name ≠ ""
  | argument index => 1 ≤ index
  | _ => True

end TemplatePart

namespace Template

/-- Every part is proper, and of two neighbours at most one is a literal. -/
structure IsNormal (template : Template) : Prop where
  proper : ∀ part ∈ template.parts, part.IsProper
  apart : template.parts.IsChain fun left right =>
    ¬ (left.isLiteral = true ∧ right.isLiteral = true)

namespace IsNormal

theorem empty : Template.empty.IsNormal :=
  ⟨nofun, .nil⟩

variable {part : TemplatePart} {parts : List TemplatePart}

/-- A substitution may stand before any parts. -/
theorem substitution_cons (normal : IsNormal ⟨parts⟩) (proper : part.IsProper)
    (notLiteral : part.isLiteral = false) : IsNormal ⟨part :: parts⟩ := by
  refine ⟨List.forall_mem_cons.mpr ⟨proper, normal.proper⟩, ?_⟩
  refine List.isChain_cons.mpr ⟨fun next _ both => ?_, normal.apart⟩
  cases notLiteral.symm.trans both.1

/-- Plain text may stand before a substitution. -/
theorem literal_cons (normal : IsNormal ⟨part :: parts⟩) (notLiteral : part.isLiteral = false)
    {text : String} (nonempty : text ≠ "") : IsNormal ⟨.literal text :: part :: parts⟩ := by
  refine ⟨List.forall_mem_cons.mpr ⟨nonempty, normal.proper⟩, ?_⟩
  refine List.isChain_cons_cons.mpr ⟨fun both => ?_, normal.apart⟩
  cases notLiteral.symm.trans both.2

end IsNormal

theorem literal_isNormal (text : String) : (literal text).IsNormal := by
  unfold literal
  split
  · exact .empty
  · rename_i notEmpty
    have nonempty : text ≠ "" := by simpa using notEmpty
    exact ⟨List.forall_mem_singleton.mpr nonempty, .singleton _⟩

/-! ### Pieces -/

/-- What is read in one step is a plain character, or else a part that is proper and no literal. -/
def Piece.IsProper : Piece → Prop
  | .char _ => True
  | .part substitution => substitution.IsProper ∧ substitution.isLiteral = false

theorem bracedPart_isProper {inside : List Char} {part : TemplatePart}
    (read : bracedPart inside = .ok part) : (Piece.part part).IsProper := by
  unfold bracedPart at read
  dsimp only at read
  split at read
  · cases read
  · rename_i notEmpty
    have nonempty : String.ofList (inside.takeWhile (· != '-')) ≠ "" := by simpa using notEmpty
    split at read <;> cases read <;> exact ⟨nonempty, rfl⟩

theorem argumentPart_isProper {first : Char} {digits : List Char} {part : TemplatePart}
    (isDigit : first.isDigit = true) (notZero : first ≠ '0')
    (read : argumentPart (first :: digits) = .ok part) : (Piece.part part).IsProper := by
  unfold argumentPart at read
  dsimp only at read
  split at read
  · cases read
    exact ⟨Decimal.valueOfDigits_pos isDigit notZero digits, rfl⟩
  · cases read

theorem expressionPart_isProper {inside : List Char} {part : TemplatePart}
    (read : expressionPart inside = .ok part) : (Piece.part part).IsProper := by
  unfold expressionPart at read
  split at read
  · cases read
    exact ⟨trivial, rfl⟩
  · cases read

theorem readPercent_isProper {chars after : List Char} {piece : Piece}
    (read : readPercent chars = .ok (piece, after)) : piece.IsProper := by
  unfold readPercent at read
  split at read
  · cases read
    trivial
  split at read
  · cases read
    trivial
  split at read
  · cases read
    exact ⟨trivial, rfl⟩
  split at read
  · cases read
    exact ⟨trivial, rfl⟩
  split at read
  · split at read
    · cases read
    · obtain ⟨part, isPart, ⟨⟩⟩ := map_eq_ok.mp read
      exact bracedPart_isProper isPart
  split at read
  · rename_i startsNumber
    obtain ⟨isDigit, notZero⟩ := Bool.and_eq_true_iff.mp startsNumber
    obtain ⟨part, isPart, ⟨⟩⟩ := map_eq_ok.mp read
    exact argumentPart_isProper isDigit (bne_iff_ne.mp notZero) isPart
  split at read
  · cases read
    exact ⟨by simp [TemplatePart.IsProper], rfl⟩
  · cases read
    trivial

theorem readDollar_isProper {chars after : List Char} {piece : Piece}
    (read : readDollar chars = .ok (piece, after)) : piece.IsProper := by
  unfold readDollar at read
  split at read
  · cases read
    trivial
  split at read
  · cases read
    trivial
  split at read
  · split at read
    · cases read
    · obtain ⟨part, isPart, ⟨⟩⟩ := map_eq_ok.mp read
      exact expressionPart_isProper isPart
  · cases read
    trivial

theorem readPiece_isProper {first : Char} {rest after : List Char} {piece : Piece}
    (read : readPiece first rest = .ok (piece, after)) : piece.IsProper := by
  unfold readPiece at read
  split at read
  · exact readPercent_isProper read
  split at read
  · exact readDollar_isProper read
  · cases read
    trivial

theorem pieces_areProper {source : List Char} {list : List Piece}
    (read : pieces source = .ok list) : ∀ piece ∈ list, piece.IsProper := by
  induction source using pieces.induct generalizing list with
  | case1 =>
    cases pieces_nil.symm.trans read
    nofun
  | case2 first rest reason failed =>
    rw [pieces] at read
    split at read
    · cases read
    · rename_i stepped
      cases failed.symm.trans stepped
  | case3 first rest piece after step inductionHypothesis =>
    rw [pieces_cons step] at read
    obtain ⟨others, readOthers, rfl⟩ := map_eq_ok.mp read
    exact List.forall_mem_cons.mpr ⟨readPiece_isProper step, inductionHypothesis readOthers⟩

/-- Only the empty text has no pieces. -/
theorem eq_nil_of_pieces {source : List Char} (read : pieces source = .ok []) : source = [] := by
  cases source with
  | nil => rfl
  | cons first rest =>
    rw [pieces] at read
    split at read
    · cases read
    · obtain ⟨others, -, never⟩ := map_eq_ok.mp read
      cases never

/-! ### Gathering -/

/-- Whatever characters come before them, proper pieces make a template in normal form. -/
theorem gather_isNormal {pieces : List Piece} (proper : ∀ piece ∈ pieces, piece.IsProper)
    (reversed : List Char) : IsNormal ⟨gather reversed pieces⟩ := by
  induction pieces generalizing reversed with
  | nil =>
    have isLiteral := gather_chars reversed []
    exact isLiteral ▸ literal_isNormal _
  | cons piece pieces inductionHypothesis =>
    obtain ⟨ofFirst, ofOthers⟩ := List.forall_mem_cons.mp proper
    cases piece with
    | char char => exact inductionHypothesis ofOthers (char :: reversed)
    | part part =>
      obtain ⟨isProper, notLiteral⟩ := ofFirst
      -- Nothing waits behind a substitution, so what was waiting before it makes the literal.
      have normal := (inductionHypothesis ofOthers []).substitution_cons isProper notLiteral
      rw [gather]
      split
      · exact normal
      · rename_i notEmpty
        exact normal.literal_cons notLiteral (by simpa using notEmpty)

/-- Every piece leaves something in the parts. -/
theorem gather_eq_nil_iff {reversed : List Char} {pieces : List Piece} :
    gather reversed pieces = [] ↔ reversed = [] ∧ pieces = [] := by
  induction pieces generalizing reversed with
  | nil => cases reversed <;> simp [gather]
  | cons piece pieces inductionHypothesis =>
    cases piece with
    | char char => simp [gather, inductionHypothesis]
    | part part => cases reversed <;> simp [gather]

/-- Only the empty text has a template without parts. -/
theorem isEmpty_iff_of_compile {source : List Char} {template : Template}
    (accepted : compile source = .ok template) : template.isEmpty = true ↔ source = [] := by
  obtain ⟨list, read, rfl⟩ := map_eq_ok.mp accepted
  constructor
  · intro noParts
    obtain ⟨-, rfl⟩ := gather_eq_nil_iff.mp (List.isEmpty_iff.mp noParts)
    exact eq_nil_of_pieces read
  · rintro rfl
    cases pieces_nil.symm.trans read
    rfl

/-! ### Expansions that may fail to find an argument's place -/

/-- The text of a part, and nothing if it is an argument counted from zero: the place of an argument
is its index less one. -/
def expandPartChecked :
    TemplatePart → Workspace → Option (Except EvalError String × Workspace)
  | .argument index, workspace =>
    index.ppred.map fun place => (.ok (workspace.arguments.getD place .empty).toText, workspace)
  | part, workspace => some (expandPart part workspace)

/-- The text of several parts, from left to right; a part that has no place ends everything. -/
def expandPartsChecked :
    List TemplatePart → Workspace → Option (Except EvalError String × Workspace)
  | [], workspace => some (.ok "", workspace)
  | part :: rest, workspace =>
    match expandPartChecked part workspace with
    | none => none
    | some (.error reason, workspace) => some (.error reason, workspace)
    | some (.ok text, workspace) =>
      (expandPartsChecked rest workspace).map fun (others, workspace) =>
        (others.map (text ++ ·), workspace)

/-- The text of a template, and nothing if an argument counted from zero is met. -/
def expandChecked (template : Template) (workspace : Workspace) :
    Option (Except EvalError String × Workspace) :=
  expandPartsChecked template.parts workspace

theorem expandPartChecked_of_isProper {part : TemplatePart} (proper : part.IsProper)
    (workspace : Workspace) :
    expandPartChecked part workspace = some (expandPart part workspace) := by
  cases part with
  | argument index =>
    have isPlace : index.ppred = some (index - 1) := Nat.ppred_eq_pred proper
    rw [expandPartChecked, isPlace]
    rfl
  | _ => rfl

theorem expandPartsChecked_of_areProper {parts : List TemplatePart}
    (proper : ∀ part ∈ parts, part.IsProper) (workspace : Workspace) :
    expandPartsChecked parts workspace = some (expandParts parts workspace) := by
  induction parts generalizing workspace with
  | nil => rfl
  | cons part rest inductionHypothesis =>
    obtain ⟨ofFirst, ofOthers⟩ := List.forall_mem_cons.mp proper
    rw [expandPartsChecked, expandPartChecked_of_isProper ofFirst, expandParts]
    show _ = some (Evaluation.bind (expandPart part) _ workspace)
    unfold Evaluation.bind
    rcases expandPart part workspace with ⟨reason | text, after⟩
    · rfl
    · dsimp only
      rw [inductionHypothesis ofOthers]
      show _ = some (Evaluation.bind (expandParts rest) _ after)
      unfold Evaluation.bind
      rcases expandParts rest after with ⟨reason | others, last⟩ <;> rfl

/-- The index zero has no place. -/
example (workspace : Workspace) : expandChecked ⟨[.argument 0]⟩ workspace = none := rfl

/-! ### Compiled templates -/

/-- Compiled templates are in normal form: no literal is empty and no two literals are neighbours,
names are not empty, and arguments are counted from one, so that an expansion never looks for one
before the first. Only the empty text compiles to a template without parts. A text without signs
compiles to itself. -/
theorem compile_isNormal (source : List Char) :
    (∀ template, compile source = .ok template →
        template.IsNormal ∧
          (∀ workspace, template.expandChecked workspace = some (template.expand workspace)) ∧
            (template.isEmpty = true ↔ source = [])) ∧
      ('%' ∉ source → '$' ∉ source → compile source = .ok (literal (String.ofList source))) := by
  refine ⟨fun template accepted => ?_, compile_of_no_sign⟩
  have normal : template.IsNormal := by
    obtain ⟨list, read, rfl⟩ := map_eq_ok.mp accepted
    exact gather_isNormal (pieces_areProper read) []
  exact ⟨normal, expandPartsChecked_of_areProper normal.proper, isEmpty_iff_of_compile accepted⟩

/-- A text with signs that stand for themselves, an argument and a default, and a text without
signs. -/
theorem compile_isNormal_of_signs :
    let source := "5%% of $$%12%\x7bx--%\x7d $0".toList
    let template : Template :=
      ⟨[.literal "5% of $", .argument 12, .named "x" (some "-%"), .literal " $0"]⟩
    let plain := "none".toList
    (compile source = .ok template ∧ template.IsNormal ∧
        (∀ workspace, template.expandChecked workspace = some (template.expand workspace)) ∧
          (template.isEmpty = true ↔ source = [])) ∧
      '%' ∉ plain ∧ '$' ∉ plain ∧ compile plain = .ok (literal "none") := by
  have read : pieces "5%% of $$%12%\x7bx--%\x7d $0".toList = .ok ("5% of $".toList.map .char ++
      [.part (.argument 12), .part (.named "x" (some "-%"))] ++ " $0".toList.map .char) :=
    pieces_of_read rfl <| pieces_of_read rfl <| pieces_of_read rfl <| pieces_of_read rfl <|
      pieces_of_read rfl <| pieces_of_read rfl <| pieces_of_read rfl <| pieces_of_read rfl <|
        pieces_of_read rfl <| pieces_of_read rfl <| pieces_of_read rfl <| pieces_of_read rfl
          pieces_nil
  have accepted : compile "5%% of $$%12%\x7bx--%\x7d $0".toList =
      .ok ⟨[.literal "5% of $", .argument 12, .named "x" (some "-%"), .literal " $0"]⟩ :=
    map_eq_ok.mpr ⟨_, read, rfl⟩
  have noPercent : '%' ∉ "none".toList := by decide
  have noDollar : '$' ∉ "none".toList := by decide
  exact ⟨⟨accepted, (compile_isNormal _).1 _ accepted⟩, noPercent, noDollar,
    (compile_isNormal _).2 noPercent noDollar⟩

end Template

end SlashScript
