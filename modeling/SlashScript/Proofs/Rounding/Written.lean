/-
This file says how the text of a number is read back. The text of an integer is its sign and its
digits. The text of a real number is its sign and digits with a point among them, and is read as the
same number; but a whole number from ten to the fifteenth up, or an infinite one, is written without
a point.
-/

import SlashScript.Proofs.Literal.Basic
import SlashScript.Proofs.Rounding.Shortest

namespace SlashScript.Decimal

/-! ### Digits -/

theorem valueOfDigits_digitsOf (number : ℕ) : valueOfDigits (digitsOf number) = number :=
  Nat.ofDigitChars_ten_toDigits

theorem valueOfDigits_append_zeros (digits : List Char) (count : ℕ) :
    valueOfDigits (digits ++ List.replicate count '0') = 10 ^ count * valueOfDigits digits := by
  show Nat.ofDigitChars 10 _ 0 = _
  rw [Nat.ofDigitChars_append, Nat.ofDigitChars_replicate_zero]
  rfl

theorem valueOfDigits_zeros_append (digits : List Char) (count : ℕ) :
    valueOfDigits (List.replicate count '0' ++ digits) = valueOfDigits digits := by
  show Nat.ofDigitChars 10 _ 0 = _
  rw [Nat.ofDigitChars_append, Nat.ofDigitChars_replicate_zero, mul_zero]
  rfl

theorem isDigit_of_mem_digitsOf {number : ℕ} {char : Char} (member : char ∈ digitsOf number) :
    char.isDigit = true :=
  Nat.isDigit_of_mem_toDigits (by decide) le_rfl member

theorem isDigit_of_mem_zeros {count : ℕ} {char : Char}
    (member : char ∈ List.replicate count '0') : char.isDigit = true := by
  rw [List.eq_of_mem_replicate member]
  rfl

section

variable {char : Char} (digit : char.isDigit = true)

include digit

theorem toNat_bounds_of_isDigit : 48 ≤ char.toNat ∧ char.toNat ≤ 57 := by
  simp only [Char.isDigit, Bool.and_eq_true, decide_eq_true_eq] at digit
  exact digit

/-- A number whose first digit is not zero is not zero. -/
theorem valueOfDigits_pos (notZero : char ≠ '0') (digits : List Char) :
    0 < valueOfDigits (char :: digits) := by
  have above : 48 < char.toNat := by
    refine lt_of_le_of_ne (toNat_bounds_of_isDigit digit).1 fun isZero => notZero ?_
    exact Char.toNat_inj.mp isZero.symm
  have first : 0 < char.toNat - '0'.toNat := Nat.sub_pos_of_lt above
  show 0 < Nat.ofDigitChars 10 (char :: digits) 0
  rw [Nat.ofDigitChars_cons, mul_zero, zero_add, Nat.ofDigitChars_eq_ofDigitChars_zero]
  exact Nat.add_pos_left (Nat.mul_pos (by positivity) first) _

theorem not_isBlank_of_isDigit : Text.isBlank char = false := by
  have bounds := toNat_bounds_of_isDigit digit
  unfold Text.isBlank
  generalize char.toNat = code at bounds
  simp only [Bool.or_eq_false_iff, Bool.and_eq_false_iff, decide_eq_false_iff_not,
    beq_eq_false_iff_ne]
  omega

theorem toLower_of_isDigit : char.toLower = char := by
  have bounds := toNat_bounds_of_isDigit digit
  unfold Char.toLower
  rw [dif_neg]
  rintro ⟨above, -⟩
  have least : 65 ≤ char.toNat := above
  omega

end

/-! ### Signs -/

/-- A sign is taken off the digits that it stands before. -/
theorem splitSign_signText (negative : Bool) {first : Char} (digit : first.isDigit = true)
    (rest : List Char) :
    splitSign (signText negative ++ first :: rest) = (negative, first :: rest) := by
  cases negative
  · show splitSign (first :: rest) = _
    unfold splitSign
    split
    · rename_i isMinus
      cases isMinus
      cases digit
    · rename_i isPlus
      cases isPlus
      cases digit
    · rfl
  · rfl

/-- A real number that begins with a digit is not one of the words. -/
theorem readFloat?_signText (negative : Bool) {first : Char} (digit : first.isDigit = true)
    (rest : List Char) :
    readFloat? (signText negative ++ first :: rest) =
      (readDecimal? (first :: rest)).map fun number => if negative then -number else number := by
  have notWord : ∀ (start : Char) (word : List Char), start.isDigit = false →
      (first :: rest).map Char.toLower ≠ start :: word := by
    rintro start word notDigit same
    rw [List.map_cons, toLower_of_isDigit digit] at same
    rw [← List.head_eq_of_cons_eq same, digit] at notDigit
    cases notDigit
  unfold readFloat?
  rw [splitSign_signText negative digit]
  dsimp only
  rw [if_neg, if_neg]
  · exact notWord 'n' ['a', 'n'] rfl
  · rw [Bool.or_eq_true, decide_eq_true_eq, decide_eq_true_eq, not_or]
    exact ⟨notWord 'i' ['n', 'f'] rfl, notWord 'i' ['n', 'f', 'i', 'n', 'i', 't', 'y'] rfl⟩

theorem trim_of_visible {text : List Char} (visible : ∀ char ∈ text, Text.isBlank char = false) :
    Text.trim text = text :=
  Text.trim_eq_self_iff.mpr ⟨fun char isFirst => visible char (List.mem_of_mem_head? isFirst),
    fun char isLast => visible char (List.mem_of_mem_getLast? isLast)⟩

/-- A number in digits, with a sign and perhaps a point, has no blanks. -/
theorem trim_signText (negative : Bool) {text : List Char}
    (digits : ∀ char ∈ text, char.isDigit = true ∨ char = '.') :
    Text.trim (signText negative ++ text) = signText negative ++ text := by
  refine trim_of_visible fun char member => ?_
  rcases List.mem_append.mp member with isSign | member
  · cases negative
    · cases isSign
    · rw [List.mem_singleton.mp isSign]
      rfl
  · rcases digits char member with digit | rfl
    · exact not_isBlank_of_isDigit digit
    · rfl

/-! ### Integers -/

theorem toList_toString (number : ℤ) :
    (toString number).toList = signText (number < 0) ++ digitsOf number.natAbs := by
  rw [Int.toString_eq_repr, Int.repr_eq_if]
  split
  · rename_i above
    rw [decide_eq_false (not_lt.mpr above), Nat.toList_repr, ← Int.natAbs_of_nonneg above]
    rfl
  · rename_i below
    have isSize : (-number).toNat = number.natAbs := by omega
    rw [decide_eq_true (not_le.mp below), String.toList_append, Nat.toList_repr, isSize]
    rfl

theorem int64OfInt?_toInt (number : Int64) : int64OfInt? number.toInt = some number := by
  unfold int64OfInt?
  rw [Int64.ofInt_toInt, if_pos]
  exact Bool.and_eq_true_iff.mpr
    ⟨decide_eq_true number.le_toInt, decide_eq_true number.toInt_le⟩

theorem readInt64?_digits (negative : Bool) (size : ℕ) :
    readInt64? (signText negative ++ digitsOf size) =
      int64OfInt? (if negative then -(size : ℤ) else size) := by
  have digits := fun char member => @isDigit_of_mem_digitsOf size char member
  have isSize := valueOfDigits_digitsOf size
  have nonempty : digitsOf size ≠ [] := Nat.toDigits_ne_nil
  generalize digitsOf size = text at digits isSize nonempty
  obtain ⟨first, rest, rfl⟩ := List.exists_cons_of_ne_nil nonempty
  have isDigits : isDigits (first :: rest) = true := List.all_eq_true.mpr digits
  unfold readInt64?
  rw [splitSign_signText negative (digits first List.mem_cons_self)]
  dsimp only
  rw [if_pos isDigits, isSize]

/-- The text of an integer is read as that integer. -/
theorem readInt64?_trim_toString (number : Int64) :
    readInt64? (Text.trim (toString number.toInt).toList) = some number := by
  rw [toList_toString, trim_signText _ fun char member => .inl (isDigit_of_mem_digitsOf member),
    readInt64?_digits]
  have same : (if decide (number.toInt < 0) = true then -(number.toInt.natAbs : ℤ)
      else number.toInt.natAbs) = number.toInt := by
    split
    · rename_i below
      have := of_decide_eq_true below
      omega
    · rename_i above
      have := of_decide_eq_false (Bool.eq_false_of_not_eq_true above)
      omega
  rw [same]
  exact int64OfInt?_toInt number

/-! ### Digits with a point -/

/-- The text is made of digits and a point among them, and stands for `digits * 10 ^ power`. -/
inductive Pointed : List Char → ℕ → ℤ → Prop where
  | intro {first : Char} {whole places : List Char}
    (allDigits : ∀ char ∈ first :: whole ++ places, char.isDigit = true) :
    Pointed (first :: whole ++ '.' :: places) (valueOfDigits (first :: whole ++ places))
      (-places.length)

section

variable {text : List Char} {digits : ℕ} {power : ℤ} (pointed : Pointed text digits power)

include pointed

theorem Pointed.mem : '.' ∈ text := by
  cases pointed
  simp

theorem Pointed.isDigit_or {char : Char} (member : char ∈ text) :
    char.isDigit = true ∨ char = '.' := by
  cases pointed with
  | intro allDigits =>
    rcases List.mem_append.mp member with inWhole | inPlaces
    · exact .inl (allDigits char (List.mem_append_left _ inWhole))
    · rcases List.mem_cons.mp inPlaces with isPoint | inPlaces
      · exact .inr isPoint
      · exact .inl (allDigits char (List.mem_append_right _ inPlaces))

/-- It is not an integer. -/
theorem Pointed.readInt64?_eq_none (negative : Bool) :
    readInt64? (signText negative ++ text) = none := by
  have hasPoint := pointed.mem
  cases pointed with
  | @intro first whole places allDigits =>
    have notDigits : isDigits (first :: whole ++ '.' :: places) = false := by
      refine Bool.eq_false_of_not_eq_true fun digits => ?_
      have isDigit := List.all_eq_true.mp (Bool.and_eq_true_iff.mp digits).2 '.' hasPoint
      cases isDigit
    unfold readInt64?
    rw [List.cons_append, splitSign_signText negative (allDigits first List.mem_cons_self)]
    dsimp only
    rw [← List.cons_append, notDigits]
    rfl

theorem Pointed.readDecimal?_eq : readDecimal? text = some (nearestFloat digits power) := by
  cases pointed with
  | @intro first whole places allDigits =>
    have wholeDigits : ∀ char ∈ first :: whole, char.isDigit = true :=
      fun char member => allDigits char (List.mem_append_left _ member)
    have placesDigits : ∀ char ∈ places, char.isDigit = true :=
      fun char member => allDigits char (List.mem_append_right _ member)
    unfold readDecimal?
    rw [List.takeWhile_append_of_pos wholeDigits, List.dropWhile_append_of_pos wholeDigits]
    have noneBefore : ('.' :: places).takeWhile Char.isDigit = [] := rfl
    have noneDropped : ('.' :: places).dropWhile Char.isDigit = '.' :: places := rfl
    simp only [noneBefore, noneDropped, List.append_nil, readExponent?, Option.map_some, zero_sub,
      List.takeWhile_eq_self_iff.mpr placesDigits, List.dropWhile_eq_nil_iff.mpr placesDigits]
    rfl

/-- It is read as the number that is nearest to what it stands for. -/
theorem Pointed.readFloat?_eq (negative : Bool) : readFloat? (signText negative ++ text) =
    some (if negative then -nearestFloat digits power else nearestFloat digits power) := by
  have read := pointed.readDecimal?_eq
  cases pointed with
  | @intro first whole places allDigits =>
    rw [List.cons_append, readFloat?_signText negative (allDigits first List.mem_cons_self),
      ← List.cons_append, read]
    rfl

end

/-! ### Texts with a point -/

/-- A whole number with one decimal place. -/
theorem pointed_onePlace (whole : ℕ) :
    Pointed (digitsOf whole ++ ['.', '0']) (10 * whole) (-1) := by
  have digits := fun char member => @isDigit_of_mem_digitsOf whole char member
  have isWhole := valueOfDigits_append_zeros (digitsOf whole) 1
  rw [valueOfDigits_digitsOf, pow_one] at isWhole
  have nonempty : digitsOf whole ≠ [] := Nat.toDigits_ne_nil
  rw [← isWhole]
  generalize digitsOf whole = text at digits nonempty
  obtain ⟨first, rest, rfl⟩ := List.exists_cons_of_ne_nil nonempty
  refine @Pointed.intro first rest ['0'] fun char member => ?_
  rcases List.mem_append.mp member with inWhole | isZero
  · exact digits char inWhole
  · rw [List.mem_singleton.mp isZero]
    rfl

/-- Digits with decimal places. -/
theorem pointed_positional {numeral : Numeral} (behind : numeral.exponent < 0) :
    Pointed (positional numeral) numeral.digits numeral.exponent := by
  have digits := fun char member => @isDigit_of_mem_digitsOf numeral.digits char member
  have isValue := valueOfDigits_digitsOf numeral.digits
  obtain ⟨count, isCount⟩ : ∃ count : ℕ, numeral.exponent = -count :=
    ⟨(-numeral.exponent).toNat, by omega⟩
  unfold positional
  dsimp only
  rw [if_neg (by omega), isCount, neg_neg, Int.toNat_natCast]
  generalize digitsOf numeral.digits = text at digits isValue
  split
  · rename_i few
    obtain ⟨first, rest, isWhole⟩ : ∃ first rest, text.take (text.length - count) = first :: rest :=
      List.exists_cons_of_ne_nil (by
        rw [← List.length_pos_iff, List.length_take]
        omega)
    have parts := List.take_append_drop (text.length - count) text
    have length : (text.drop (text.length - count)).length = count := by
      rw [List.length_drop]
      omega
    rw [isWhole] at parts ⊢
    generalize text.drop (text.length - count) = places at parts length
    subst parts length
    rw [← isValue]
    exact .intro digits
  · rename_i many
    have isZeros : valueOfDigits ('0' :: [] ++ (List.replicate (count - text.length) '0' ++ text)) =
        numeral.digits := by
      rw [← isValue, ← List.append_assoc]
      exact valueOfDigits_zeros_append text (count - text.length + 1)
    have length : (List.replicate (count - text.length) '0' ++ text).length = count := by
      rw [List.length_append, List.length_replicate]
      omega
    rw [← isZeros]
    nth_rewrite 3 [← length]
    refine @Pointed.intro '0' [] _ fun char member => ?_
    rw [List.singleton_append] at member
    rcases List.mem_cons.mp member with rfl | inPlaces
    · rfl
    · rcases List.mem_append.mp inPlaces with isZero | inDigits
      · exact isDigit_of_mem_zeros isZero
      · exact digits char inDigits

/-- Whether a number is written with a point: if it is finite, and has a fraction or is less than ten
to the fifteenth. -/
def hasPoint (number : Float) : Bool :=
  match Binary.ofFloat number with
  | .notANumber | .infinite _ => false
  | .finite _ mantissa exponent =>
    !isWhole mantissa exponent || (wholePart false mantissa exponent).toNat < onePlaceBound

section

variable {mantissa : ℕ} {exponent : ℤ} (canonical : Canonical mantissa exponent)

/-- The digits of a positive number that are not written without a point. -/
theorem Canonical.exists_pointed
    (point : isWhole mantissa exponent = true →
      (wholePart false mantissa exponent).toNat < onePlaceBound) :
    ∃ digits power,
      Pointed (if isWhole mantissa exponent &&
          (wholePart false mantissa exponent).toNat < onePlaceBound
        then digitsOf (wholePart false mantissa exponent).toNat ++ ['.', '0']
        else positional (shortest mantissa exponent)) digits power ∧
      nearestFloat digits power = canonical.float .positive := by
  cases whole : isWhole mantissa exponent
  · have behind : (shortest mantissa exponent).exponent < 0 := by
      have := canonical.shortest_exponent_nonneg_iff
      rw [whole] at this
      simpa using this
    exact ⟨_, _, pointed_positional behind,
      canonical.near_shortest.nearestFloat canonical canonical.shortest_digits_pos⟩
  · have small := point whole
    have isNumber := natCast_wholePart whole
    rw [decide_eq_true small]
    refine ⟨_, _, pointed_onePlace _, Near.nearestFloat canonical ?_ ?_⟩
    · have moved : ((10 * (wholePart false mantissa exponent).toNat : ℕ) * 10 ^ (-1 : ℤ) : ℚ) =
          mantissa * 2 ^ exponent := by
        rw [← isNumber]
        push_cast
        ring
      rw [moved]
      exact near_self mantissa exponent
    · refine Nat.mul_pos (by norm_num) (Nat.pos_of_ne_zero fun isZero => ?_)
      rw [isZero, Nat.cast_zero] at isNumber
      exact mantissa_mul_ne_zero canonical.positive exponent isNumber.symm

end

theorem isWhole_zero (exponent : ℤ) : isWhole 0 exponent = true :=
  isWhole_iff.mpr ⟨0, by rw [Nat.cast_zero, zero_mul]⟩

theorem wholePart_zero (exponent : ℤ) : (wholePart false 0 exponent).toNat = 0 := by
  have isZero := natCast_wholePart (isWhole_zero exponent)
  rw [Nat.cast_zero, zero_mul] at isZero
  exact_mod_cast isZero

theorem nearestFloat_zero (power : ℤ) : nearestFloat 0 power = 0.0 := by
  unfold nearestFloat
  dsimp only
  rw [decide_eq_true rfl, Bool.true_or, if_pos rfl]

theorem onePlaceBound_pos : 0 < onePlaceBound :=
  Nat.pow_pos (by norm_num)

/-- A number of more than fifteen digits before the point is not zero. -/
theorem Binary.exists_large_float {number : Float} {negative : Bool} {mantissa : ℕ} {exponent : ℤ}
    (parts : ofFloat number = .finite negative mantissa exponent)
    (large : ¬ (wholePart false mantissa exponent).toNat < onePlaceBound) :
    ∃ sign, ∃ canonical : Canonical mantissa exponent,
      negative = isNegative sign ∧ number = canonical.float sign := by
  refine exists_float parts (Nat.pos_of_ne_zero ?_)
  rintro rfl
  rw [wholePart_zero] at large
  exact large onePlaceBound_pos

/-- The text of a number with a point is read as that number. -/
theorem exists_pointed {number : Float} (point : hasPoint number = true) :
    ∃ negative text digits power,
      floatText number = String.ofList (signText negative ++ text) ∧ Pointed text digits power ∧
        number = if negative then -nearestFloat digits power else nearestFloat digits power := by
  unfold hasPoint at point
  unfold floatText
  cases parts : Binary.ofFloat number with
  | notANumber | infinite =>
    rw [parts] at point
    cases point
  | finite negative mantissa exponent =>
    rw [parts] at point
    dsimp only at point ⊢
    rw [Bool.or_eq_true, Bool.not_eq_true', decide_eq_true_eq] at point
    rcases Nat.eq_zero_or_pos mantissa with rfl | positive
    · refine ⟨negative, ['0', '.', '0'], 0, -1, ?_, @Pointed.intro '0' [] ['0'] ?_, ?_⟩
      · have isZero : digitsOf 0 = ['0'] := Nat.toDigits_zero 10
        rw [isWhole_zero, wholePart_zero, decide_eq_true onePlaceBound_pos, Bool.and_true,
          if_pos rfl, isZero]
        rfl
      · exact fun char member => @isDigit_of_mem_zeros 2 char member
      · rw [nearestFloat_zero]
        exact Binary.eq_zero parts
    · obtain ⟨sign, canonical, rfl, isNumber⟩ := Binary.exists_float parts positive
      obtain ⟨digits, power, pointed, read⟩ :=
        canonical.exists_pointed fun whole => point.resolve_left (ne_false_of_eq_true whole)
      refine ⟨isNegative sign, _, digits, power, rfl, pointed, ?_⟩
      rw [read, isNumber]
      cases sign
      · exact canonical.neg_float.symm
      · rfl

/-- Only digits are written before a whole number of zeros. -/
theorem isDigit_of_mem_positional {numeral : Numeral} (whole : 0 ≤ numeral.exponent) {char : Char}
    (member : char ∈ positional numeral) : char.isDigit = true := by
  unfold positional at member
  dsimp only at member
  rw [if_pos whole] at member
  rcases List.mem_append.mp member with inDigits | isZero
  · exact isDigit_of_mem_digitsOf inDigits
  · exact isDigit_of_mem_zeros isZero

theorem not_mem_signText (negative : Bool) : '.' ∉ signText negative := by
  cases negative <;> decide

theorem mem_floatText_iff {number : Float} :
    '.' ∈ (floatText number).toList ↔ hasPoint number = true := by
  constructor
  · intro member
    unfold floatText at member
    unfold hasPoint
    cases parts : Binary.ofFloat number with
    | notANumber =>
      rw [parts] at member
      exact absurd member (by decide)
    | infinite negative =>
      rw [parts] at member
      exact absurd member (by cases negative <;> decide)
    | finite negative mantissa exponent =>
      rw [parts] at member
      dsimp only at member ⊢
      rw [Bool.or_eq_true, Bool.not_eq_true', decide_eq_true_eq, or_iff_not_imp_left,
        Bool.not_eq_false]
      intro whole
      by_contra large
      rw [whole, decide_eq_false large, String.toList_ofList] at member
      obtain ⟨-, canonical, -, -⟩ := Binary.exists_large_float parts large
      rcases List.mem_append.mp member with inSign | inDigits
      · exact not_mem_signText negative inSign
      · have digit := isDigit_of_mem_positional
          (canonical.shortest_exponent_nonneg_iff.mpr whole) inDigits
        cases digit
  · intro point
    obtain ⟨negative, text, digits, power, isText, pointed, -⟩ := exists_pointed point
    rw [isText, String.toList_ofList]
    exact List.mem_append_right _ pointed.mem

end SlashScript.Decimal
