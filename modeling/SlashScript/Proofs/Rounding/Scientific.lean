/-
This file says that a decimal is read as the number that it is near to. Short decimals are read by
one multiplication or division of two numbers that are exact, and all others by whole numbers of any
length. Decimals that lie too far out to be computed are not near to any number.
-/

import SlashScript.Decimal.Reading
import SlashScript.Proofs.Rounding.Nearest
import SlashScript.Proofs.Rounding.Whole

namespace SlashScript.Decimal

open Float.Model Float.Model.UnpackedFloat

/-! ### Powers of ten -/

theorem two_zpow_le_ten_zpow {exponent : ℤ} (above : 0 ≤ exponent) :
    (2 : ℚ) ^ (3 * exponent) ≤ 10 ^ exponent := by
  rw [zpow_mul]
  exact zpow_le_zpow_left₀ above (by norm_num) (by norm_num)

theorem ten_zpow_le_two_zpow {exponent : ℤ} (below : exponent ≤ 0) :
    (10 : ℚ) ^ exponent ≤ 2 ^ (3 * exponent) := by
  have opposite := two_zpow_le_ten_zpow (neg_nonneg.mpr below)
  rw [mul_neg, zpow_neg, zpow_neg] at opposite
  exact (inv_le_inv₀ (unit_pos _) (by positivity)).mp opposite

theorem lt_ten_pow_length (number : ℕ) : number < 10 ^ (Nat.toDigits 10 number).length :=
  (Nat.length_toDigits_le_iff (by norm_num) Nat.length_toDigits_pos).mp le_rfl

theorem ten_pow_length_le {number : ℕ} (positive : 0 < number) :
    10 ^ ((Nat.toDigits 10 number).length - 1) ≤ number := by
  by_contra! less
  rcases Nat.eq_zero_or_pos ((Nat.toDigits 10 number).length - 1) with isZero | few
  · rw [isZero, pow_zero] at less
    omega
  · have := (Nat.length_toDigits_le_iff (by norm_num) few).mpr less
    omega

theorem powerOfTen_table : ∀ index : Fin Float.exactlyRepresentablePowersOfTen.size,
    Float.exactlyRepresentablePowersOfTen[index] = Float.ofNat (10 ^ index.val) ∧
      5 ^ index.val < 2 ^ 53 := by
  decide +kernel

/-- The powers of ten that are kept in a table are exact. -/
theorem holds_powerOfTen {count : ℕ} (few : count ≤ 22)
    (inTable : count < Float.exactlyRepresentablePowersOfTen.size) :
    Holds Float.exactlyRepresentablePowersOfTen[count] (10 ^ count) := by
  obtain ⟨isPower, short⟩ : Float.exactlyRepresentablePowersOfTen[count] =
      Float.ofNat (10 ^ count) ∧ 5 ^ count < 2 ^ 53 := powerOfTen_table ⟨count, inTable⟩
  have isProduct : ((10 ^ count : ℕ) : ℚ) = (5 ^ count : ℕ) * 2 ^ (count : ℤ) := by
    rw [zpow_natCast, Nat.cast_pow, Nat.cast_pow, ← mul_pow]
    norm_num
  have moderate := moderate_mul_two_pow (by omega : 5 ^ count ≤ 2 ^ 64)
    (by omega : -1000 ≤ (count : ℤ)) (by omega)
  have holds := holds_ofNat (isProduct ▸ moderate) (isProduct ▸ significant_of_lt short count)
  rw [Nat.cast_pow] at holds
  rwa [isPower]

/-! ### Short decimals -/

/-- The parts of a positive number that has 53 digits. -/
theorem Holds.exists_positive_parts {number : Float} {value : ℚ} (holds : Holds number value)
    (above : 0 < value) :
    ∃ (mantissa : ℕ) (exponent : ℤ) (positive : 0 < mantissa), 2 ^ 52 ≤ mantissa ∧
      value = mantissa * 2 ^ exponent ∧
        number.toModel.unpack = .finite .positive mantissa exponent positive := by
  have stands : Stands number.toModel.unpack value := holds
  generalize number.toModel.unpack = unpacked at stands
  cases stands with
  | zero => exact absurd above (lt_irrefl 0)
  | @finite sign mantissa exponent positive least =>
    cases sign with
    | positive => exact ⟨mantissa, exponent, positive, least, rfl, rfl⟩
    | negative =>
      have size := mul_pos (Nat.cast_pos.mpr positive : (0 : ℚ) < mantissa) (unit_pos exponent)
      exact absurd above (neg_nonpos.mpr size.le).not_gt

section

variable {mantissa : ℕ} {exponent : ℤ} {number number' : Float} {value value' : ℚ}
  (canonical : Canonical mantissa exponent) (holds : Holds number value) (above : 0 < value)
  (holds' : Holds number' value') (above' : 0 < value')

include holds above holds' above'

theorem Near.float_mul (near : Near mantissa exponent (value * value')) :
    number * number' = canonical.float .positive := by
  obtain ⟨first, firstExponent, positive, least, rfl, parts⟩ := holds.exists_positive_parts above
  obtain ⟨second, secondExponent, positive', least', rfl, parts'⟩ :=
    holds'.exists_positive_parts above'
  show Float.ofModel (.pack (UnpackedFloat.mul Format.binary64 number.toModel.unpack
    number'.toModel.unpack)) = _
  rw [parts, parts', near.mul canonical positive positive' (by nlinarith)]
  rfl

theorem Near.float_div (near : Near mantissa exponent (value / value')) :
    number / number' = canonical.float .positive := by
  obtain ⟨first, firstExponent, positive, -, rfl, parts⟩ := holds.exists_positive_parts above
  obtain ⟨second, secondExponent, positive', -, rfl, parts'⟩ :=
    holds'.exists_positive_parts above'
  show Float.ofModel (.pack (UnpackedFloat.div Format.binary64 number.toModel.unpack
    number'.toModel.unpack)) = _
  rw [parts, parts', near.div canonical positive positive']
  rfl

end

/-! ### Decimals of any length -/

section

variable {mantissa : ℕ} {exponent power : ℤ} {number : ℚ}
  (canonical : Canonical mantissa exponent) (near : Near mantissa exponent number)

include canonical near

theorem Near.le_of_lt_ten_zpow (below : number < 10 ^ power) : -400 ≤ power := by
  by_contra! far
  have bound : (2 : ℚ) ^ (-1075 : ℤ) < 2 ^ (3 * power) :=
    (near.two_pow_le canonical).trans_lt (below.trans_le (ten_zpow_le_two_zpow (by omega)))
  have := (zpow_lt_zpow_iff_right₀ one_lt_two).mp bound
  omega

theorem Near.lt_of_ten_zpow_le (above : 10 ^ power ≤ number) : power < 400 := by
  by_contra! far
  have bound : (2 : ℚ) ^ (3 * power) < 2 ^ (53 + exponent) :=
    ((two_zpow_le_ten_zpow (by omega)).trans above).trans_lt (near.lt_two_pow canonical)
  have := (zpow_lt_zpow_iff_right₀ one_lt_two).mp bound
  have := canonical.high
  omega

end

section

variable {mantissa digits : ℕ} {exponent power : ℤ} (canonical : Canonical mantissa exponent)
  (near : Near mantissa exponent (digits * 10 ^ power)) (positive : 0 < digits)

include canonical near

/-- A decimal that is near to a number does not lie far out. -/
theorem Near.le_power {places : ℕ} (most : digits < 10 ^ places) : -400 ≤ power + places := by
  have castMost : (digits : ℚ) < 10 ^ places := by exact_mod_cast most
  refine near.le_of_lt_ten_zpow canonical ?_
  rw [zpow_add₀ (by norm_num), zpow_natCast, mul_comm]
  exact mul_lt_mul_of_pos_left castMost (by positivity)

theorem Near.power_lt {places : ℕ} (least : 10 ^ places ≤ digits) : power + places < 400 := by
  have castLeast : (10 : ℚ) ^ places ≤ digits := by exact_mod_cast least
  refine near.lt_of_ten_zpow_le canonical ?_
  rw [zpow_add₀ (by norm_num), zpow_natCast, mul_comm]
  exact mul_le_mul_of_nonneg_right castLeast (by positivity)

include positive

theorem Near.ofScientific : UnpackedFloat.ofScientific Format.binary64 digits power =
    .finite .positive mantissa exponent canonical.positive := by
  have short : digits < 10 ^ (digits.log2 + 1) :=
    Nat.lt_log2_self.trans_le (Nat.pow_le_pow_left (by norm_num) _)
  have notTiny : -(2048 + digits.log2) ≤ power := by
    have := near.le_power canonical short
    omega
  have notHuge : power ≤ 2048 := by
    have := near.power_lt canonical ((pow_zero 10).trans_le positive)
    omega
  have limit : (2 : ℤ) ^ Format.binary64.exponentBits = 2048 := rfl
  unfold UnpackedFloat.ofScientific
  rw [dif_neg positive.ne', limit, if_neg notHuge.not_gt, if_neg notTiny.not_gt]
  rcases le_or_gt 0 power with whole | fraction
  · rw [if_pos whole]
    have isPower : ((10 ^ power.toNat : ℕ) : ℚ) = 10 ^ power := natCast_pow_toNat 10 whole
    have moved : ((digits <<< 53 : ℕ) * 2 ^ (-53 : ℤ) *
        ((10 ^ power.toNat : ℕ) * 2 ^ (0 : ℤ)) : ℚ) = digits * 10 ^ power := by
      rw [Nat.shiftLeft_eq, isPower, zpow_zero, mul_one, Nat.cast_mul, zpow_neg, Nat.cast_pow]
      exact congrArg (· * _) (mul_inv_cancel_right₀ (by norm_num) _)
    have enough : 2 ^ 52 ≤ digits <<< 53 * 10 ^ power.toNat := by
      have tens : 0 < 10 ^ power.toNat := by positivity
      rw [Nat.shiftLeft_eq]
      nlinarith
    rw [← moved] at near
    exact near.mul canonical _ _ enough
  · rw [if_neg fraction.not_ge]
    have isPower : ((10 ^ (-power).toNat : ℕ) : ℚ) = (10 ^ power)⁻¹ := by
      rw [← zpow_neg]
      exact natCast_pow_toNat 10 (by omega)
    have divided : (digits * 2 ^ (0 : ℤ) / ((10 ^ (-power).toNat : ℕ) * 2 ^ (0 : ℤ)) : ℚ) =
        digits * 10 ^ power := by
      rw [isPower, zpow_zero, mul_one, mul_one, div_inv_eq_mul]
    rw [← divided] at near
    exact near.div canonical _ _

/-- A decimal is read as the number that it is near to. -/
theorem Near.float_ofScientific :
    Float.ofScientific digits (power < 0) power.natAbs = canonical.float .positive := by
  unfold Float.ofScientific
  split
  · rename_i short
    obtain ⟨small, few⟩ := short
    have holds := holds_toFloat small
    have holds' := holds_powerOfTen few (show _ < 23 by omega)
    have above : (0 : ℚ) < digits := by exact_mod_cast positive
    have above' : (0 : ℚ) < 10 ^ power.natAbs := by positivity
    dsimp only
    split
    · rename_i fraction
      have opposite : power = -(power.natAbs : ℤ) := by
        have := of_decide_eq_true fraction
        omega
      rw [opposite, zpow_neg, zpow_natCast, ← div_eq_mul_inv] at near
      exact near.float_div canonical holds above holds' above'
    · rename_i whole
      have same : power = (power.natAbs : ℤ) := by
        have := of_decide_eq_false (Bool.eq_false_of_not_eq_true whole)
        omega
      rw [same, zpow_natCast] at near
      exact near.float_mul canonical holds above holds' above'
  · have isPower : (if decide (power < 0) = true then Int.negOfNat power.natAbs
        else Int.ofNat power.natAbs) = power := by
      split
      · rename_i fraction
        have := of_decide_eq_true fraction
        rw [Int.negOfNat_eq]
        show -(power.natAbs : ℤ) = power
        omega
      · rename_i whole
        have := of_decide_eq_false (Bool.eq_false_of_not_eq_true whole)
        show (power.natAbs : ℤ) = power
        omega
    dsimp only
    rw [isPower]
    show Float.ofModel (.pack (UnpackedFloat.ofScientific Format.binary64 digits power)) = _
    rw [near.ofScientific canonical positive]
    rfl

/-- Nor does it lie so far out that it is taken for zero or infinity. -/
theorem Near.nearestFloat : nearestFloat digits power = canonical.float .positive := by
  have notTiny := near.le_power canonical (lt_ten_pow_length digits)
  have notHuge := near.power_lt canonical (ten_pow_length_le positive)
  unfold Decimal.nearestFloat
  dsimp only
  rw [if_neg, if_neg]
  · exact near.float_ofScientific canonical positive
  · omega
  · simp only [Bool.or_eq_true, decide_eq_true_eq, not_or, not_lt]
    exact ⟨positive.ne', notTiny⟩

end

end SlashScript.Decimal
