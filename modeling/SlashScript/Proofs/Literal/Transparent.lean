/-
This file proves that escaped text is transparent: written before any other text, it changes neither
whether that text is accepted as a template nor what it does. The two signs of an escape are taken
together, so what follows is read from its own first character on, whatever the escaped text ends
in. Plain characters grow together with those after them into one part of the template; the
substitutions behind them stay as they are, with their failures and their effects.
-/

import SlashScript.Proofs.Literal.NormalForm

namespace SlashScript

namespace Template

/-! ### Text in front of a template -/

/-- The template with a text in front of it, which joins the literal that the template begins with,
if it begins with one. -/
def prepend (text : String) : Template → Template
  | ⟨.literal first :: others⟩ => ⟨.literal (text ++ first) :: others⟩
  | ⟨parts⟩ => if text.isEmpty then ⟨parts⟩ else ⟨.literal text :: parts⟩

/-- The parts do not begin with a literal. -/
def StartsOtherwise (parts : List TemplatePart) : Prop :=
  ∀ first others, parts ≠ .literal first :: others

theorem startsOtherwise_or (parts : List TemplatePart) :
    (∃ first others, parts = .literal first :: others) ∨ StartsOtherwise parts := by
  by_cases starts : ∃ first others, parts = .literal first :: others
  · exact .inl starts
  · exact .inr fun first others same => starts ⟨first, others, same⟩

theorem prepend_of_startsOtherwise {parts : List TemplatePart} (starts : StartsOtherwise parts)
    (text : String) :
    prepend text ⟨parts⟩ = if text.isEmpty then ⟨parts⟩ else ⟨.literal text :: parts⟩ :=
  prepend.eq_2 text parts starts

theorem prepend_empty (template : Template) : prepend "" template = template := by
  obtain ⟨parts⟩ := template
  rcases startsOtherwise_or parts with ⟨first, others, rfl⟩ | starts
  · rw [prepend, String.empty_append]
  · exact (prepend_of_startsOtherwise starts "").trans (if_pos rfl)

theorem prepend_prepend (first second : String) (template : Template) :
    prepend first (prepend second template) = prepend (first ++ second) template := by
  obtain ⟨parts⟩ := template
  rcases startsOtherwise_or parts with ⟨text, others, rfl⟩ | starts
  · rw [prepend, prepend, prepend, String.append_assoc]
  rcases eq_or_ne second "" with rfl | nonempty
  · rw [prepend_empty, String.append_empty]
  · have notEmpty : ¬ second.isEmpty = true := by simpa using nonempty
    have joinedNotEmpty : ¬ (first ++ second).isEmpty = true := by simp [nonempty]
    rw [prepend_of_startsOtherwise starts, prepend_of_startsOtherwise starts, if_neg notEmpty,
      if_neg joinedNotEmpty, prepend]

/-- A literal part is expanded before the parts behind it and does nothing. -/
theorem expandParts_literal (text : String) (parts : List TemplatePart) (workspace : Workspace) :
    expandParts (.literal text :: parts) workspace =
      ((expandParts parts workspace).1.map (text ++ ·), (expandParts parts workspace).2) := by
  rw [expandParts]
  show Evaluation.bind (expandParts parts) _ workspace = _
  unfold Evaluation.bind
  rcases expandParts parts workspace with ⟨reason | others, after⟩ <;> rfl

/-- The expansion begins with the text and goes on as it would without it. -/
theorem expand_prepend (text : String) (template : Template) (workspace : Workspace) :
    (prepend text template).expand workspace =
      ((template.expand workspace).1.map (text ++ ·), (template.expand workspace).2) := by
  rcases eq_or_ne text "" with rfl | nonempty
  · rw [prepend_empty]
    rcases template.expand workspace with ⟨reason | others, after⟩ <;> simp [Except.map]
  obtain ⟨parts⟩ := template
  rcases startsOtherwise_or parts with ⟨first, others, rfl⟩ | starts
  · rw [prepend, expand, expand, expandParts_literal, expandParts_literal]
    rcases expandParts others workspace with ⟨reason | rest, after⟩ <;>
      simp [Except.map, String.append_assoc]
  · rw [prepend_of_startsOtherwise starts, if_neg (by simpa using nonempty)]
    exact expandParts_literal text parts workspace

/-! ### Plain characters in front of pieces -/

/-- What is read in one step is a plain character or a substitution, not a literal part. -/
def Piece.IsAtomic (piece : Piece) : Prop :=
  ∀ text, piece ≠ .part (.literal text)

theorem Piece.IsProper.isAtomic {piece : Piece} (proper : piece.IsProper) : piece.IsAtomic := by
  rintro text rfl
  cases proper.2

theorem pieces_areAtomic {source : List Char} {list : List Piece}
    (read : pieces source = .ok list) : ∀ piece ∈ list, piece.IsAtomic :=
  fun piece member => (pieces_areProper read piece member).isAtomic

/-- Plain characters are put to those before them. -/
theorem gather_append (reversed text : List Char) (pieces : List Piece) :
    gather reversed (text.map .char ++ pieces) = gather (text.reverse ++ reversed) pieces := by
  induction text generalizing reversed with
  | nil => rfl
  | cons char text inductionHypothesis =>
    rw [List.reverse_cons, List.append_assoc]
    exact inductionHypothesis (char :: reversed)

/-- Characters that come before the pieces of a text come in front of its template. -/
theorem gather_eq_prepend {pieces : List Piece} (atomic : ∀ piece ∈ pieces, piece.IsAtomic)
    (reversed : List Char) :
    (⟨gather reversed pieces⟩ : Template) =
      prepend (String.ofList reversed.reverse) ⟨gather [] pieces⟩ := by
  induction pieces generalizing reversed with
  | nil => cases reversed <;> simp [gather, prepend]
  | cons piece pieces inductionHypothesis =>
    obtain ⟨ofFirst, ofOthers⟩ := List.forall_mem_cons.mp atomic
    cases piece with
    | char char =>
      rw [gather, gather, inductionHypothesis ofOthers, inductionHypothesis ofOthers [char],
        prepend_prepend, ← String.ofList_append, List.reverse_cons]
      rfl
    | part part =>
      have starts : StartsOtherwise (part :: gather [] pieces) := by
        rintro text others ⟨⟩
        exact ofFirst text rfl
      have start : gather [] (.part part :: pieces) = part :: gather [] pieces := rfl
      rw [start, prepend_of_startsOtherwise starts, gather]
      cases reversed <;> simp

/-! ### Escaped text before a text -/

/-- Escaped text is transparent. Before another text it is refused exactly if the other text is
refused by itself, and for the same reason. Otherwise the template of the two is that of the other
text with the escaped one, as it was before it was escaped, in front of it. The expansion begins
with that text and goes on as if nothing were there: the other text fails as it does by itself, and
does the same to the workspace. So any text can be written literally: with nothing behind it, the
escaped text is a template that expands to the text and does nothing to the workspace. -/
theorem compile_escaped_before (text rest : List Char) :
    compile (escape text ++ rest) = (compile rest).map (prepend (String.ofList text)) ∧
      (∀ (template : Template) (workspace : Workspace),
        (prepend (String.ofList text) template).expand workspace =
          ((template.expand workspace).1.map (String.ofList text ++ ·),
            (template.expand workspace).2)) ∧
      compile (escape text) = .ok (literal (String.ofList text)) ∧
        ∀ workspace : Workspace, (literal (String.ofList text)).expand workspace =
          (.ok (String.ofList text), workspace) := by
  refine ⟨?_, expand_prepend (String.ofList text), compile_escape text,
    expand_literal (String.ofList text)⟩
  unfold compile
  rw [pieces_escape]
  rcases read : pieces rest with reason | list
  · rfl
  · refine congrArg Except.ok ?_
    dsimp only
    rw [gather_append, List.append_nil, gather_eq_prepend (pieces_areAtomic read),
      List.reverse_reverse]

/-- A sign that was escaped right before the sign of a substitution. -/
example : compile "%%%%x%%%#".toList = .ok ⟨[.literal "%%x%", .argumentCount]⟩ := by cbv

end Template

end SlashScript
