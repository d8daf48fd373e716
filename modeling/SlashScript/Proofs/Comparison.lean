/-
This file says how values are compared. A value is numeric if its text is read as a number. Two
numeric values are compared as numbers, and any other two by their texts, so that each kind of
comparison is transitive. The two together are not: a text that is not a number may stand between
the texts of two numbers whose own order is another.
-/

import Mathlib.Data.String.Basic
import SlashScript.Proofs.Rounding.Order
import SlashScript.Proofs.Rounding.Reread
import SlashScript.Value.Arithmetic

namespace SlashScript.Value

open Decimal

/-! ### Numeric values -/

/-- The number that the text of a value is read as, blanks around it apart. -/
def number? (value : Value) : Option Float :=
  readFloat? (Text.trim value.toText.toList)

/-- The text of the value is read as a number. -/
def IsNumeric (value : Value) : Prop :=
  value.number?.isSome

instance (value : Value) : Decidable value.IsNumeric :=
  inferInstanceAs (Decidable (_ = true))

@[simp] theorem number?_integer (number : Int64) :
    (integer number).number? = some (ofInt64 number) :=
  readFloat?_trim_toString number

@[simp] theorem number?_real (number : Float) : (real number).number? = some number :=
  readFloat?_trim_floatText number

theorem isNumeric_integer (number : Int64) : (integer number).IsNumeric := by
  unfold IsNumeric
  rw [number?_integer]
  rfl

theorem IsNumeric.of_toText_eq {value value' : Value} (numeric : value.IsNumeric)
    (same : value.toText = value'.toText) : value'.IsNumeric := by
  unfold IsNumeric number? at *
  rwa [← same]

/-! ### Two kinds of comparison -/

section

variable {left right : Value} {number number' : Float}

theorem compareTexts_of_numbers (isNumber : left.number? = some number)
    (isNumber' : right.number? = some number') :
    compareTexts left.toText right.toText = compareFloats number number' := by
  unfold number? at isNumber isNumber'
  unfold compareTexts
  rw [isNumber, isNumber']

theorem compareTexts_of_word (word : ¬ left.IsNumeric ∨ ¬ right.IsNumeric) :
    compareTexts left.toText right.toText =
      if left.toText < right.toText then .lt else if right.toText < left.toText then .gt
        else .eq := by
  unfold IsNumeric number? at word
  unfold compareTexts
  split
  · rename_i isNumber isNumber'
    rw [isNumber, isNumber'] at word
    exact (word.elim (· rfl) (· rfl)).elim
  · rfl

/-- Two integers are compared as such, and any other two values by their texts. -/
theorem order_cases (left right : Value) :
    (∃ number number', left = integer number ∧ right = integer number') ∨
      left.order right = compareTexts left.toText right.toText := by
  cases left with
  | integer number =>
    cases right with
    | integer number' => exact .inl ⟨number, number', rfl, rfl⟩
    | real =>
      exact .inr (compareTexts_of_numbers (number?_integer _) (number?_real _)).symm
    | text | action => exact .inr rfl
  | real number =>
    cases right with
    | integer =>
      exact .inr (compareTexts_of_numbers (number?_real _) (number?_integer _)).symm
    | real => exact .inr (compareTexts_of_numbers (number?_real _) (number?_real _)).symm
    | text | action => exact .inr rfl
  | text | action => exact .inr rfl

theorem order_of_word (word : ¬ left.IsNumeric ∨ ¬ right.IsNumeric) :
    left.order right =
      if left.toText < right.toText then .lt else if right.toText < left.toText then .gt
        else .eq := by
  rcases order_cases left right with ⟨number, number', rfl, rfl⟩ | byText
  · exact (word.elim (· (isNumeric_integer _)) (· (isNumeric_integer _))).elim
  · rw [byText, compareTexts_of_word word]

end

/-! ### Less and greater -/

/-- In a choice between two relations that exclude each other, less one way is greater the other
way. -/
theorem choice_eq_gt_iff {less greater : Prop} [Decidable less] [Decidable greater]
    (apart : less → ¬ greater) :
    (if less then Ordering.lt else if greater then .gt else .eq) = .gt ↔
      (if greater then Ordering.lt else if less then .gt else .eq) = .lt := by
  by_cases isLess : less
  · simp [isLess, apart isLess]
  · by_cases isGreater : greater <;> simp [isLess, isGreater]

theorem choice_eq_lt_iff {less greater : Prop} [Decidable less] [Decidable greater] :
    (if less then Ordering.lt else if greater then .gt else .eq) = .lt ↔ less := by
  by_cases isLess : less
  · simp [isLess]
  · by_cases isGreater : greater <;> simp [isLess, isGreater]

theorem compareTexts_eq_gt_iff (left right : String) :
    compareTexts left right = .gt ↔ compareTexts right left = .lt := by
  unfold compareTexts
  cases readFloat? (Text.trim left.toList) <;> cases readFloat? (Text.trim right.toList)
  case some.some => exact choice_eq_gt_iff float_lt_asymm
  all_goals exact choice_eq_gt_iff fun less => less.asymm

/-- A value is greater than another if the other is less than it. -/
theorem order_eq_gt_iff (left right : Value) :
    left.order right = .gt ↔ right.order left = .lt := by
  rcases order_cases left right with ⟨number, number', rfl, rfl⟩ | byText
  · exact choice_eq_gt_iff fun less => Int64.not_lt.mpr (Int64.le_of_lt less)
  · rcases order_cases right left with ⟨number, number', rfl, rfl⟩ | byText'
    · exact choice_eq_gt_iff fun less => Int64.not_lt.mpr (Int64.le_of_lt less)
    · rw [byText, byText']
      exact compareTexts_eq_gt_iff _ _

theorem order_self_ne_lt (value : Value) : value.order value ≠ .lt := by
  intro less
  have greater := (order_eq_gt_iff value value).mpr less
  rw [less] at greater
  cases greater

section

variable {left right : Value} {number number' : Float}

theorem order_eq_lt_iff_of_word (word : ¬ left.IsNumeric ∨ ¬ right.IsNumeric) :
    left.order right = .lt ↔ left.toText < right.toText := by
  rw [order_of_word word]
  exact choice_eq_lt_iff

/-- Among numbers the floats decide, but for two integers that become the same float. -/
theorem order_eq_lt_iff_of_numbers (isNumber : left.number? = some number)
    (isNumber' : right.number? = some number') :
    left.order right = .lt ↔
      (∃ whole whole', left = integer whole ∧ right = integer whole' ∧ whole < whole') ∨
        number < number' := by
  by_cases integers : ∃ whole whole', left = integer whole ∧ right = integer whole'
  · obtain ⟨whole, whole', rfl, rfl⟩ := integers
    rw [number?_integer] at isNumber isNumber'
    obtain rfl := Option.some.inj isNumber
    obtain rfl := Option.some.inj isNumber'
    have byInteger : (integer whole).order (integer whole') = .lt ↔ whole < whole' :=
      choice_eq_lt_iff
    rw [byInteger]
    constructor
    · exact fun less => .inl ⟨whole, whole', rfl, rfl, less⟩
    · rintro (⟨_, _, isWhole, isWhole', less⟩ | less)
      · rwa [integer.inj isWhole, integer.inj isWhole']
      · by_contra notLess
        exact not_ofInt64_lt (Int64.not_lt.mp notLess) less
  · have byText := (order_cases left right).resolve_left integers
    rw [byText, compareTexts_of_numbers isNumber isNumber']
    refine choice_eq_lt_iff.trans ⟨.inr, ?_⟩
    rintro (⟨whole, whole', isWhole, isWhole', -⟩ | less)
    · exact absurd ⟨whole, whole', isWhole, isWhole'⟩ integers
    · exact less

end

/-! ### Three values -/

/-- Two numbers and a text between theirs that is not a number, although the numbers do not stand
in the order of their texts. -/
structure Tangled (above below between : Value) : Prop where
  numeric_above : above.IsNumeric
  numeric_below : below.IsNumeric
  word : ¬ between.IsNumeric
  texts_below : below.toText < between.toText
  texts_above : between.toText < above.toText
  order : above.order below ≠ .gt

section

variable {above below between : Value} (tangled : Tangled above below between)

include tangled

theorem Tangled.greater : above.order between = .gt := by
  rw [order_eq_gt_iff, order_eq_lt_iff_of_word (.inl tangled.word)]
  exact tangled.texts_above

theorem Tangled.less : below.order between = .lt := by
  rw [order_eq_lt_iff_of_word (.inr tangled.word)]
  exact tangled.texts_below

end

section

variable {first second third : Value}

/-- Numbers are compared in a transitive way, integers and floats mixed. -/
theorem order_trans_of_numeric (numeric : first.IsNumeric) (numeric' : second.IsNumeric)
    (numeric'' : third.IsNumeric) (less : first.order second = .lt)
    (less' : second.order third = .lt) : first.order third = .lt := by
  obtain ⟨number, isNumber⟩ := Option.isSome_iff_exists.mp numeric
  obtain ⟨number', isNumber'⟩ := Option.isSome_iff_exists.mp numeric'
  obtain ⟨number'', isNumber''⟩ := Option.isSome_iff_exists.mp numeric''
  rw [order_eq_lt_iff_of_numbers isNumber isNumber'']
  rw [order_eq_lt_iff_of_numbers isNumber isNumber'] at less
  rw [order_eq_lt_iff_of_numbers isNumber' isNumber''] at less'
  rcases less with ⟨whole, middle, rfl, rfl, less⟩ | less
  · rcases less' with ⟨_, whole', isMiddle, rfl, less'⟩ | less'
    · rw [← integer.inj isMiddle] at less'
      exact .inl ⟨whole, whole', rfl, rfl, Int64.lt_trans less less'⟩
    · rw [number?_integer] at isNumber isNumber'
      obtain rfl := Option.some.inj isNumber
      obtain rfl := Option.some.inj isNumber'
      exact .inr (ofInt64_lt_of_le (Int64.le_of_lt less) less')
  · rcases less' with ⟨middle, whole', rfl, rfl, less'⟩ | less'
    · rw [number?_integer] at isNumber' isNumber''
      obtain rfl := Option.some.inj isNumber'
      obtain rfl := Option.some.inj isNumber''
      exact .inr (lt_ofInt64_of_le (Int64.le_of_lt less') less)
    · exact .inr (float_lt_trans less less')

/-- Texts are compared in a transitive way, as long as no two of the values are numbers. -/
theorem order_trans_of_words (word : ¬ first.IsNumeric ∨ ¬ second.IsNumeric)
    (word' : ¬ second.IsNumeric ∨ ¬ third.IsNumeric)
    (word'' : ¬ first.IsNumeric ∨ ¬ third.IsNumeric) (less : first.order second = .lt)
    (less' : second.order third = .lt) : first.order third = .lt := by
  rw [order_eq_lt_iff_of_word word] at less
  rw [order_eq_lt_iff_of_word word'] at less'
  rw [order_eq_lt_iff_of_word word'']
  exact less.trans less'

/-- The texts of a number and of a word differ, so that one of them comes first. -/
theorem toText_lt_of_order_ne_lt (apart : ¬ (first.IsNumeric ↔ second.IsNumeric))
    (notLess : first.order second ≠ .lt) : second.toText < first.toText := by
  have word : ¬ first.IsNumeric ∨ ¬ second.IsNumeric := by
    rw [← not_and_or]
    exact fun both => apart (iff_of_true both.1 both.2)
  rw [Ne, order_eq_lt_iff_of_word word] at notLess
  refine lt_of_le_of_ne (not_lt.mp notLess) fun same => apart ?_
  exact ⟨fun numeric => numeric.of_toText_eq same.symm, fun numeric => numeric.of_toText_eq same⟩

/-- Where the comparison is not transitive, two numbers are tangled with a text. -/
theorem tangled_of_not_trans (less : first.order second = .lt) (less' : second.order third = .lt)
    (notLess : first.order third ≠ .lt) :
    Tangled third first second ∨ Tangled first second third ∨ Tangled second third first := by
  have notGreater {left right : Value} (isLess : left.order right = .lt) :
      left.order right ≠ .gt := by
    rw [isLess]
    exact Ordering.noConfusion
  by_cases numeric : first.IsNumeric
  · by_cases numeric' : second.IsNumeric
    · by_cases numeric'' : third.IsNumeric
      · exact absurd (order_trans_of_numeric numeric numeric' numeric'' less less') notLess
      · exact .inr (.inl {
          numeric_above := numeric
          numeric_below := numeric'
          word := numeric''
          texts_below := (order_eq_lt_iff_of_word (.inr numeric'')).mp less'
          texts_above :=
            toText_lt_of_order_ne_lt (fun same => numeric'' (same.mp numeric)) notLess
          order := notGreater less })
    · by_cases numeric'' : third.IsNumeric
      · exact .inl {
          numeric_above := numeric''
          numeric_below := numeric
          word := numeric'
          texts_below := (order_eq_lt_iff_of_word (.inr numeric')).mp less
          texts_above := (order_eq_lt_iff_of_word (.inl numeric')).mp less'
          order := mt (order_eq_gt_iff third first).mp notLess }
      · exact absurd (order_trans_of_words (.inr numeric') (.inl numeric') (.inr numeric'')
          less less') notLess
  · by_cases numeric' : second.IsNumeric
    · by_cases numeric'' : third.IsNumeric
      · exact .inr (.inr {
          numeric_above := numeric'
          numeric_below := numeric''
          word := numeric
          texts_below :=
            toText_lt_of_order_ne_lt (fun same => numeric (same.mpr numeric'')) notLess
          texts_above := (order_eq_lt_iff_of_word (.inl numeric)).mp less
          order := notGreater less' })
      · exact absurd (order_trans_of_words (.inl numeric) (.inr numeric'') (.inl numeric)
          less less') notLess
    · exact absurd (order_trans_of_words (.inl numeric) (.inl numeric') (.inl numeric)
        less less') notLess

end

/-- Among the values are two numbers that are tangled with a third one. -/
def HasTangle (values : List Value) : Prop :=
  ∃ above ∈ values, ∃ below ∈ values, ∃ between ∈ values, Tangled above below between

section

variable {values : List Value}

theorem hasTangle_of_not_trans {first second third : Value} (isFirst : first ∈ values)
    (isSecond : second ∈ values) (isThird : third ∈ values) (less : first.order second = .lt)
    (less' : second.order third = .lt) (notLess : first.order third ≠ .lt) :
    HasTangle values := by
  rcases tangled_of_not_trans less less' notLess with tangled | tangled | tangled
  · exact ⟨third, isThird, first, isFirst, second, isSecond, tangled⟩
  · exact ⟨first, isFirst, second, isSecond, third, isThird, tangled⟩
  · exact ⟨second, isSecond, third, isThird, first, isFirst, tangled⟩

theorem not_hasTangle_of_numeric (numeric : ∀ value ∈ values, value.IsNumeric) :
    ¬ HasTangle values := by
  rintro ⟨_, _, _, _, between, member, tangled⟩
  exact tangled.word (numeric between member)

end

end SlashScript.Value
