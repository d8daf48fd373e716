/-
This file says which values are read back from their own text. All are, except the real numbers that
are written without a point: those that are infinite or no number, and the whole ones from ten to
the fifteenth up. Their text is taken for an integer, or for text. So a variable that is set to the
text of another one may not have its value, and since the sign of a number is changed by way of its
text, such a number does not stay real.
-/

import SlashScript.Interpreter
import SlashScript.Proofs.Rounding.Written
import SlashScript.Value.Arithmetic

namespace SlashScript

open Decimal

theorem Text.mem_of_mem_trim {char : Char} {text : List Char} (member : char ∈ trim text) :
    char ∈ text :=
  (List.dropWhile_suffix isBlank).subset ((List.rdropWhile_prefix isBlank _).subset member)

namespace Value

/-! ### Values read from text -/

/-- Text is an integer, or a real number if it has a point, or it is kept as it is. -/
theorem ofText_cases (content : String) :
    (∃ number, ofText content = integer number ∧ (text content).toInt64 = number) ∨
      (∃ number, ofText content = real number ∧ '.' ∈ content.toList) ∨
        ofText content = text content ∧ (text content).toInt64 = 0 := by
  unfold ofText toInt64
  dsimp only
  split
  · rename_i number isInteger
    exact .inl ⟨number, rfl, by rw [isInteger]; rfl⟩
  · rename_i notInteger
    rw [notInteger]
    split
    · rename_i number isReal
      split
      · rename_i hasPoint
        exact .inr (.inl ⟨number, rfl, Text.mem_of_mem_trim (List.contains_iff_mem.mp hasPoint)⟩)
      · exact .inr (.inr ⟨rfl, rfl⟩)
    · exact .inr (.inr ⟨rfl, rfl⟩)

/-! ### Values read from their own text -/

theorem ofText_toText_integer (number : Int64) :
    ofText (integer number).toText = integer number := by
  unfold ofText toText
  dsimp only
  rw [readInt64?_trim_toString]

theorem ofText_toText_real {number : Float} (point : hasPoint number = true) :
    ofText (real number).toText = real number := by
  obtain ⟨negative, written, digits, power, isText, pointed, isNumber⟩ := exists_pointed point
  have trimmed := trim_signText negative fun char member => pointed.isDigit_or member
  have isPoint : (signText negative ++ written).contains '.' = true :=
    List.contains_iff_mem.mpr (List.mem_append_right _ pointed.mem)
  unfold ofText toText
  dsimp only
  rw [isText, String.toList_ofList, trimmed, pointed.readInt64?_eq_none, pointed.readFloat?_eq]
  dsimp only
  rw [if_pos isPoint, ← isNumber]

/-- The text of a real number without a point is not read as a real number. -/
theorem ofText_toText_ne_real {number : Float} (noPoint : hasPoint number = false)
    (other : Float) : ofText (real number).toText ≠ real other := by
  intro isReal
  have notMember : '.' ∉ (real number).toText.toList := fun member =>
    ne_true_of_eq_false noPoint (mem_floatText_iff.mp member)
  rcases ofText_cases (real number).toText with ⟨_, isInteger, -⟩ | ⟨_, -, member⟩ | ⟨isText, -⟩
  · cases isReal.symm.trans isInteger
  · exact notMember member
  · cases isReal.symm.trans isText

theorem ofText_toText_real_iff {number : Float} :
    ofText (real number).toText = real number ↔ hasPoint number = true := by
  refine ⟨fun same => ?_, ofText_toText_real⟩
  by_contra noPoint
  exact ofText_toText_ne_real (eq_false_of_ne_true noPoint) number same

/-! ### Variables that are set to the text of other variables -/

/-- A variable that is set to the text of another one. -/
theorem runStatement_set_named (limit : ℕ) {name : String} (copy : String) {workspace : Workspace}
    {value : Value} (stored : workspace.get? name = some value) :
    Interpreter.runStatement limit (.set copy ⟨[.named name none]⟩ false) workspace =
      .done .normal (workspace.set copy (ofText value.toText)) := by
  have expanded : Template.expand ⟨[.named name none]⟩ workspace =
      (.ok value.toText, workspace) := by
    show (Except.ok (((workspace.get? name).getD .empty).toText ++ ""), workspace) = _
    rw [stored, String.append_empty]
    rfl
  unfold Interpreter.runStatement Interpreter.evaluating
  rw [expanded]
  rfl

/-- What was read from text is read again from its own text, unless it is a real number that is
written without a point. Then the copy of a variable is not real. -/
theorem ofText_toText_ofText (content : String) :
    (ofText (ofText content).toText = ofText content ↔
        ∀ number, ofText content = real number → hasPoint number = true) ∧
      (∀ number, ofText content = real number → hasPoint number = false →
        ∀ other, ofText (ofText content).toText ≠ real other) ∧
      ∀ (limit : ℕ) (name copy : String) (workspace : Workspace),
        workspace.get? name = some (ofText content) →
          Interpreter.runStatement limit (.set copy ⟨[.named name none]⟩ false) workspace =
            .done .normal (workspace.set copy (ofText (ofText content).toText)) := by
  refine ⟨?_, fun number isReal noPoint => ?_,
    fun limit name copy workspace => runStatement_set_named limit copy⟩
  · rcases ofText_cases content with ⟨number, isInteger, -⟩ | ⟨number, isReal, -⟩ | ⟨isText, -⟩
    · rw [isInteger, ofText_toText_integer]
      exact iff_of_true rfl nofun
    · rw [isReal, ofText_toText_real_iff]
      constructor
      · rintro point other ⟨⟩
        exact point
      · intro points
        exact points number rfl
    · rw [isText]
      exact iff_of_true isText nofun
  · rw [isReal]
    exact ofText_toText_ne_real noPoint

/-- The text of ten to the fifteenth has no point. -/
theorem not_ofText_toText_ofText :
    ¬ ∀ content : String, ofText (ofText content).toText = ofText content := by
  intro stable
  have sameType := congrArg typeName (stable "1000000000000000.0")
  revert sameType
  decide +kernel

/-! ### Numbers whose sign is changed -/

theorem neg_integer (number : Int64) : (integer number).neg = integer (-number) := by
  unfold neg
  rw [ofText_toText_integer]

theorem neg_real {number : Float} (point : hasPoint number = true) :
    (real number).neg = real (-number) := by
  unfold neg
  rw [ofText_toText_real point]

theorem neg_real_of_no_point {number : Float} (noPoint : hasPoint number = false) :
    (real number).neg = integer (-(text (floatText number)).toInt64) := by
  have isText : (real number).toText = floatText number := rfl
  have notReal := ofText_toText_ne_real noPoint
  unfold neg
  rw [isText] at notReal ⊢
  rcases ofText_cases (floatText number) with
    ⟨other, isInteger, isOther⟩ | ⟨other, isReal, -⟩ | ⟨isText, isZero⟩
  · rw [isInteger, isOther]
  · exact absurd isReal (notReal other)
  · rw [isText, isZero]
    rfl

/-- The words for infinity are no integers. -/
theorem toInt64_infinite {number : Float} {negative : Bool}
    (infinite : Binary.ofFloat number = .infinite negative) :
    (text (floatText number)).toInt64 = 0 := by
  unfold floatText
  rw [infinite]
  cases negative <;> decide +kernel

/-- The sign of an integer is changed, and that of a real number that is written with a point. A
real number without a point becomes the integer that its text is taken for, with the other sign, or
zero if its text is no integer. -/
theorem neg_number (whole : Int64) (number : Float) :
    (integer whole).neg = integer (-whole) ∧
      ((real number).neg = real (-number) ↔ hasPoint number = true) ∧
      (hasPoint number = false →
        (real number).neg = integer (-(text (floatText number)).toInt64)) ∧
      (∀ negative, Binary.ofFloat number = .infinite negative →
        (real number).neg = integer 0) := by
  refine ⟨neg_integer whole, ⟨fun same => ?_, neg_real⟩, neg_real_of_no_point,
    fun negative infinite => ?_⟩
  · by_contra noPoint
    cases same.symm.trans (neg_real_of_no_point (eq_false_of_ne_true noPoint))
  · have noPoint : hasPoint number = false := by
      unfold hasPoint
      rw [infinite]
    rw [neg_real_of_no_point noPoint, toInt64_infinite infinite]
    rfl

/-- Ten to the fifteenth becomes an integer. -/
theorem not_neg_number : ¬ ∀ number : Float, (real number).neg = real (-number) := by
  intro negates
  have sameType := congrArg typeName (negates 1e15)
  revert sameType
  decide +kernel

end Value

end SlashScript
