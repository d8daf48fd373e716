/-
This file says that the text of every number is read as a real number, with or without a point. For
a real number this is the number itself, and for an integer the float that the integer becomes.
-/

import SlashScript.Proofs.Rounding.Written

namespace SlashScript.Decimal

open Float.Model Float.Model.UnpackedFloat

/-! ### Digits without a point -/

theorem readDecimal?_of_digits {text : List Char} (nonempty : text ≠ [])
    (digits : ∀ char ∈ text, char.isDigit = true) :
    readDecimal? text = some (nearestFloat (valueOfDigits text) 0) := by
  have isEmpty : text.isEmpty = false := List.isEmpty_eq_false_iff.mpr nonempty
  unfold readDecimal?
  rw [List.takeWhile_eq_self_iff.mpr digits, List.dropWhile_eq_nil_iff.mpr digits]
  simp only [isEmpty, Bool.false_and, Bool.false_eq_true, if_false, readExponent?, Option.map_some,
    List.append_nil, List.length_nil, Nat.cast_zero, sub_zero]

/-- Digits with a sign are read as the float that is nearest to their value. -/
theorem readFloat?_of_digits (negative : Bool) {text : List Char} (nonempty : text ≠ [])
    (digits : ∀ char ∈ text, char.isDigit = true) :
    readFloat? (Text.trim (signText negative ++ text)) =
      some (if negative then -nearestFloat (valueOfDigits text) 0
        else nearestFloat (valueOfDigits text) 0) := by
  rw [trim_signText negative fun char member => .inl (digits char member)]
  obtain ⟨first, rest, rfl⟩ := List.exists_cons_of_ne_nil nonempty
  rw [readFloat?_signText negative (digits first List.mem_cons_self),
    readDecimal?_of_digits nonempty digits]
  rfl

/-! ### Integers -/

theorem nearestFloat_natCast {number : ℕ} (small : number ≤ 2 ^ 64) :
    nearestFloat number 0 = Float.ofNat number := by
  have few : (Nat.toDigits 10 number).length ≤ 20 :=
    (Nat.length_toDigits_le_iff (by norm_num) (by norm_num)).mpr
      (small.trans_lt (by norm_num))
  unfold nearestFloat
  dsimp only
  rcases Nat.eq_zero_or_pos number with rfl | positive
  · rfl
  · rw [if_neg, if_neg (by omega)]
    · rfl
    · rw [Bool.or_eq_true, decide_eq_true_eq, decide_eq_true_eq]
      omega

/-- The text of an integer is read as the float that the integer becomes. -/
theorem readFloat?_trim_toString (number : Int64) :
    readFloat? (Text.trim (toString number.toInt).toList) = some (ofInt64 number) := by
  have small := natAbs_toInt_le number
  have digits := readFloat?_of_digits (number.toInt < 0)
    (show digitsOf number.toInt.natAbs ≠ [] from Nat.toDigits_ne_nil)
    fun char member => isDigit_of_mem_digitsOf member
  rw [toList_toString, digits, valueOfDigits_digitsOf,
    nearestFloat_natCast (small.trans (by norm_num)), ofInt64]
  cases number.toInt with
  | ofNat magnitude => rfl
  | negSucc magnitude =>
    rw [decide_eq_true (Int.negSucc_lt_zero magnitude)]
    rfl

/-! ### Real numbers -/

/-- There is one float only that is not a number. -/
theorem eq_nan_of_ofFloat {number : Float} (parts : Binary.ofFloat number = .notANumber) :
    number = 0.0 / 0.0 := by
  have whole := ofModel_pack_unpack number
  rw [Binary.ofFloat_eq] at parts
  generalize number.toModel.unpack = unpacked at parts whole
  cases unpacked with
  | notANumber =>
    rw [← whole]
    rfl
  | infinity | zero | finite => cases parts

theorem eq_infinity_of_ofFloat {number : Float} {negative : Bool}
    (parts : Binary.ofFloat number = .infinite negative) :
    number = if negative then -(1.0 / 0.0) else 1.0 / 0.0 := by
  have whole := ofModel_pack_unpack number
  rw [Binary.ofFloat_eq] at parts
  generalize number.toModel.unpack = unpacked at parts whole
  cases unpacked with
  | infinity sign =>
    cases parts
    rw [← whole]
    cases sign
    · rfl
    · rfl
  | notANumber | zero | finite => cases parts

/-- The digits of a whole number, with the zeros that follow them. -/
theorem valueOfDigits_positional {numeral : Numeral} (whole : 0 ≤ numeral.exponent) :
    valueOfDigits (positional numeral) = 10 ^ numeral.exponent.toNat * numeral.digits := by
  unfold positional
  dsimp only
  rw [if_pos whole, valueOfDigits_append_zeros, valueOfDigits_digitsOf]

theorem positional_ne_nil {numeral : Numeral} (whole : 0 ≤ numeral.exponent) :
    positional numeral ≠ [] := by
  unfold positional
  dsimp only
  rw [if_pos whole]
  exact List.append_ne_nil_of_left_ne_nil Nat.toDigits_ne_nil _

/-- A whole number of more than fifteen digits is read back although it has no point. -/
theorem Canonical.nearestFloat_positional {mantissa : ℕ} {exponent : ℤ}
    (canonical : Canonical mantissa exponent) (whole : isWhole mantissa exponent = true) :
    nearestFloat (valueOfDigits (positional (shortest mantissa exponent))) 0 =
      canonical.float .positive := by
  have above := canonical.shortest_exponent_nonneg_iff.mpr whole
  have isPower : ((10 ^ (shortest mantissa exponent).exponent.toNat : ℕ) : ℚ) =
      10 ^ (shortest mantissa exponent).exponent := natCast_pow_toNat 10 above
  rw [valueOfDigits_positional above]
  refine Near.nearestFloat canonical ?_
    (Nat.mul_pos (by positivity) canonical.shortest_digits_pos)
  rw [zpow_zero, mul_one, Nat.cast_mul, isPower, mul_comm]
  exact canonical.near_shortest

/-- The text of a real number is read as that number. -/
theorem readFloat?_trim_floatText (number : Float) :
    readFloat? (Text.trim (floatText number).toList) = some number := by
  cases point : hasPoint number
  · unfold hasPoint at point
    unfold floatText
    cases parts : Binary.ofFloat number with
    | notANumber =>
      rw [eq_nan_of_ofFloat parts]
      rfl
    | infinite negative =>
      rw [eq_infinity_of_ofFloat parts]
      cases negative
      · rfl
      · rfl
    | finite negative mantissa exponent =>
      rw [parts] at point
      dsimp only at point ⊢
      rw [Bool.or_eq_false_iff, Bool.not_eq_false', decide_eq_false_iff_not] at point
      obtain ⟨whole, large⟩ := point
      obtain ⟨sign, canonical, rfl, isNumber⟩ := Binary.exists_large_float parts large
      have above := canonical.shortest_exponent_nonneg_iff.mpr whole
      rw [whole, decide_eq_false large, Bool.and_false, if_neg Bool.false_ne_true,
        String.toList_ofList, readFloat?_of_digits _ (positional_ne_nil above)
          fun char => isDigit_of_mem_positional above, canonical.nearestFloat_positional whole,
        isNumber]
      cases sign
      · exact congrArg some canonical.neg_float
      · rfl
  · obtain ⟨negative, text, digits, power, isText, pointed, isNumber⟩ := exists_pointed point
    rw [isText, String.toList_ofList, trim_signText negative fun char => pointed.isDigit_or,
      pointed.readFloat?_eq, ← isNumber]

end SlashScript.Decimal
