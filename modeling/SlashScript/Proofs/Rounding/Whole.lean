/-
This file says how whole numbers become floats, how floats are cut to whole numbers, and what the
remainder of two floats is. Only the first of these rounds: the whole part of a float is exact
within 64 bits, and the remainder of two whole floats is that of the whole numbers.
-/

import SlashScript.Proofs.Rounding.Operations

namespace SlashScript.Decimal

open Float.Model Float.Model.UnpackedFloat

/-! ### From whole numbers to floats -/

/-- A whole number becomes the float next to it, which is whole too. -/
theorem exists_holds_ofInt {number : ℤ} (small : number.natAbs ≤ 2 ^ 64) :
    ∃ rounded : ℤ, RoundsTo number rounded ∧ Holds (Float.ofInt number) rounded := by
  obtain ⟨rounded, rounds, holds⟩ := exists_holds_ofNat (moderate_natCast small)
  obtain ⟨whole, rfl⟩ := rounds.exists_nat
  cases number with
  | ofNat magnitude => exact ⟨whole, by exact_mod_cast rounds, by exact_mod_cast holds⟩
  | negSucc magnitude =>
    refine ⟨-whole, ?_, ?_⟩
    · push_cast [Int.cast_negSucc]
      exact_mod_cast rounds.neg
    · push_cast
      exact holds.neg

theorem natAbs_toInt_le (number : Int64) : number.toInt.natAbs ≤ 2 ^ 63 := by
  have low := number.le_toInt
  have high := number.toInt_lt
  omega

theorem exists_holds_ofInt64 (number : Int64) :
    ∃ rounded : ℤ, RoundsTo number.toInt rounded ∧ Holds (ofInt64 number) rounded :=
  exists_holds_ofInt ((natAbs_toInt_le number).trans (by norm_num))

/-- A natural number of 53 digits, wherever its point stands, becomes a float without loss. -/
theorem holds_ofNat {number : ℕ} (moderate : Moderate (number : ℚ))
    (significant : Significant 53 (number : ℚ)) : Holds (Float.ofNat number) number := by
  obtain ⟨rounded, rounds, holds⟩ := exists_holds_ofNat moderate
  rwa [rounds.eq_of_significant significant] at holds

theorem natCast_pow_toNat (base : ℕ) {exponent : ℤ} (above : 0 ≤ exponent) :
    ((Nat.pow base exponent.toNat : ℕ) : ℚ) = base ^ exponent := by
  conv_rhs => rw [← Int.toNat_of_nonneg above, zpow_natCast]
  exact Nat.cast_pow base _

/-- A number as so many times a unit that is no greater than its own. -/
theorem mul_two_pow_toNat (mantissa : ℕ) {exponent unit : ℤ} (below : unit ≤ exponent) :
    ((mantissa * Nat.pow 2 (exponent - unit).toNat : ℕ) : ℚ) * 2 ^ unit =
      mantissa * 2 ^ exponent := by
  rw [Nat.cast_mul, natCast_pow_toNat 2 (by omega), Nat.cast_ofNat, mul_assoc,
    ← zpow_add₀ two_ne_zero, sub_add_cancel]

/-! ### From floats to whole numbers -/

/-- The fraction that a number is taken for is the number. -/
theorem scaleByTwo_eq (mantissa : ℕ) (exponent : ℤ) :
    ((scaleByTwo mantissa exponent).1 / (scaleByTwo mantissa exponent).2 : ℚ) =
      mantissa * 2 ^ exponent := by
  unfold scaleByTwo
  split
  · rename_i above
    have isNumber := mul_two_pow_toNat mantissa above
    rw [sub_zero, zpow_zero, mul_one] at isNumber
    rw [Nat.cast_one, div_one]
    exact isNumber
  · have unit : (2 : ℚ) ^ exponent = (2 ^ (-exponent).toNat)⁻¹ := by
      have opposite : exponent = -((-exponent).toNat : ℤ) := by omega
      conv_lhs => rw [opposite, zpow_neg, zpow_natCast]
    rw [unit, div_eq_mul_inv]
    exact congrArg (_ * ·⁻¹) (Nat.cast_pow 2 _)

theorem wholePart_eq (sign : Sign) (mantissa : ℕ) (exponent : ℤ) :
    wholePart (isNegative sign) mantissa exponent =
      towardZero (signed sign (mantissa * 2 ^ exponent)) := by
  rw [← scaleByTwo_eq]
  unfold wholePart
  generalize scaleByTwo mantissa exponent = fraction
  obtain ⟨numerator, denominator⟩ := fraction
  have nonnegative : (0 : ℚ) ≤ numerator / denominator := by positivity
  have whole : towardZero (numerator / denominator : ℚ) = (numerator / denominator : ℕ) := by
    rw [towardZero, if_neg (not_lt.mpr nonnegative)]
    exact Rat.floor_natCast_div_natCast numerator denominator
  cases sign
  · show -((numerator / denominator : ℕ) : ℤ) = towardZero (-_)
    rw [towardZero_neg, whole]
  · exact whole.symm

/-- The parts of a float, and the number that they make up. -/
theorem Holds.exists_parts {number : Float} {value : ℚ} (holds : Holds number value) :
    ∃ (sign : Sign) (mantissa : ℕ) (exponent : ℤ),
      Binary.ofFloat number = .finite (isNegative sign) mantissa exponent ∧ mantissa < 2 ^ 53 ∧
        -1074 ≤ exponent ∧ value = signed sign (mantissa * 2 ^ exponent) := by
  have stands : Stands number.toModel.unpack value := holds
  rw [Binary.ofFloat_eq]
  generalize number.toModel.unpack = unpacked at stands
  cases stands with
  | zero sign =>
    refine ⟨sign, 0, Binary.leastExponent, rfl, by norm_num, le_rfl, ?_⟩
    exact (signed_eq_zero_iff.mpr (by rw [Nat.cast_zero, zero_mul])).symm
  | @finite sign mantissa exponent positive least most low =>
    exact ⟨sign, mantissa, exponent, rfl, most, low, rfl⟩

/-- A float is cut to the whole number next to it on the side of zero, within 64 bits. -/
theorem Holds.truncateToInt64_eq {number : Float} {value : ℚ} (holds : Holds number value) :
    truncateToInt64 number = clampToInt64 (towardZero value) := by
  obtain ⟨sign, mantissa, exponent, parts, -, -, rfl⟩ := holds.exists_parts
  unfold truncateToInt64
  rw [parts]
  exact congrArg clampToInt64 (wholePart_eq sign mantissa exponent)

theorem towardZero_intCast (whole : ℤ) : towardZero whole = whole := by
  unfold towardZero
  split
  · exact Int.ceil_intCast whole
  · exact Int.floor_intCast whole

theorem toInt_clampToInt64 {whole : ℤ} (low : -2 ^ 63 ≤ whole) (high : whole < 2 ^ 63) :
    (clampToInt64 whole).toInt = whole := by
  have least : Int64.minValue.toInt = -2 ^ 63 := rfl
  have most : Int64.maxValue.toInt = 2 ^ 63 - 1 := rfl
  unfold clampToInt64
  rw [if_neg (by omega), if_neg (by omega)]
  exact Int64.toInt_ofInt_of_le low high

/-! ### Remainders -/

/-- A float is divided by a power of two without loss. -/
theorem Holds.div_two_pow {number : Float} {mantissa : ℕ} {exponent : ℤ}
    (holds : Holds number (mantissa * 2 ^ exponent)) (small : mantissa < 2 ^ 53) {count : ℕ}
    (few : count ≤ 900) (moderate : Moderate (mantissa * 2 ^ (exponent - count))) :
    Holds (number / Float.ofNat (Nat.pow 2 count)) (mantissa * 2 ^ (exponent - count)) := by
  have isPower : ((Nat.pow 2 count : ℕ) : ℚ) = 2 ^ (count : ℤ) := by
    rw [zpow_natCast]
    exact Nat.cast_pow 2 count
  have moderatePower : Moderate (2 ^ (count : ℤ)) := by
    have one := moderate_mul_two_pow (by norm_num : 1 ≤ 2 ^ 64) (by omega : -1000 ≤ (count : ℤ))
      (by omega)
    rwa [Nat.cast_one, one_mul] at one
  have power := holds_ofNat (isPower ▸ moderatePower) (isPower ▸ significant_two_pow count)
  have isQuotient : (mantissa * 2 ^ exponent / (Nat.pow 2 count : ℕ) : ℚ) =
      mantissa * 2 ^ (exponent - count) := by
    rw [isPower, zpow_sub₀ two_ne_zero, mul_div_assoc]
  obtain ⟨rounded, rounds, result⟩ := holds.div power (isPower ▸ (unit_pos count).ne')
    (isQuotient ▸ moderate)
  rw [isQuotient] at rounds
  rwa [rounds.eq_of_significant (significant_of_lt small _)] at result

/-- A number of 53 digits is put together without loss. -/
theorem holds_assemble (sign : Sign) {mantissa : ℕ} {exponent : ℤ} (small : mantissa < 2 ^ 53)
    (low : -1074 ≤ exponent) (moderate : Moderate (mantissa * 2 ^ exponent)) :
    Holds (assemble (isNegative sign) mantissa exponent)
      (signed sign (mantissa * 2 ^ exponent)) := by
  have magnitude : Holds (if 0 ≤ exponent then Float.ofNat (mantissa * Nat.pow 2 exponent.toNat)
      else Float.ofNat mantissa / Float.ofNat (Nat.pow 2 ((-exponent).toNat / 2)) /
        Float.ofNat (Nat.pow 2 ((-exponent).toNat - (-exponent).toNat / 2)))
      (mantissa * 2 ^ exponent) := by
    split
    · rename_i above
      have isNumber := mul_two_pow_toNat mantissa above
      rw [sub_zero, zpow_zero, mul_one] at isNumber
      have holds := holds_ofNat (isNumber ▸ moderate) (isNumber ▸ significant_of_lt small exponent)
      rwa [isNumber] at holds
    · have whole : Holds (Float.ofNat mantissa) (mantissa * 2 ^ (0 : ℤ)) := by
        rw [zpow_zero, mul_one]
        exact holds_ofNat (moderate_natCast (by omega)) (significant_natCast small)
      have halved := whole.div_two_pow small (by omega : (-exponent).toNat / 2 ≤ 900)
        (moderate_mul_two_pow (by omega) (by omega) (by omega))
      have isExponent : 0 - (((-exponent).toNat / 2 : ℕ) : ℤ) -
          ((-exponent).toNat - (-exponent).toNat / 2 : ℕ) = exponent := by omega
      have result := halved.div_two_pow small
        (by omega : (-exponent).toNat - (-exponent).toNat / 2 ≤ 900) (isExponent.symm ▸ moderate)
      rwa [isExponent] at result
  cases sign
  · exact magnitude.neg
  · exact magnitude

/-- What is left of a number after division is left of its multiple by the unit too. -/
theorem natCast_mod_eq {dividend divisor left right : ℕ} {unit : ℚ} (nonzero : unit ≠ 0)
    (isDividend : (dividend : ℚ) = left * unit) (isDivisor : (divisor : ℚ) = right * unit) :
    ((dividend % divisor : ℕ) : ℚ) = (left % right : ℕ) * unit := by
  have sameQuotient : dividend / divisor = left / right := by
    have sameRatio : (dividend / divisor : ℚ) = left / right := by
      rw [isDividend, isDivisor, mul_div_mul_right _ _ nonzero]
    have sameFloor := congrArg Int.floor sameRatio
    rw [Rat.floor_natCast_div_natCast, Rat.floor_natCast_div_natCast] at sameFloor
    exact_mod_cast sameFloor
  have whole : ((dividend % divisor : ℕ) : ℚ) + divisor * (dividend / divisor : ℕ) = dividend := by
    exact_mod_cast Nat.mod_add_div dividend divisor
  have whole' : ((left % right : ℕ) : ℚ) + right * (left / right : ℕ) = left := by
    exact_mod_cast Nat.mod_add_div left right
  rw [sameQuotient, isDividend, isDivisor, ← whole'] at whole
  linarith

/-- The remainder of two whole numbers, from their multiples of one unit. -/
theorem tmod_eq_signed {sign sign' : Sign} {dividend divisor : ℤ} {left right : ℕ} {unit : ℚ}
    (positive : 0 < unit) (isDividend : (dividend : ℚ) = signed sign (left * unit))
    (isDivisor : (divisor : ℚ) = signed sign' (right * unit)) :
    ((dividend.tmod divisor : ℤ) : ℚ) = signed sign ((left % right : ℕ) * unit) := by
  have magnitude : (dividend.natAbs : ℚ) = left * unit := by
    rw [Nat.cast_natAbs, Int.cast_abs, isDividend, abs_signed, abs_of_nonneg (by positivity)]
  have magnitude' : (divisor.natAbs : ℚ) = right * unit := by
    rw [Nat.cast_natAbs, Int.cast_abs, isDivisor, abs_signed, abs_of_nonneg (by positivity)]
  have sameSize := Int.natAbs_tmod dividend divisor
  rw [← natCast_mod_eq positive.ne' magnitude magnitude', ← sameSize]
  have nonnegative : (0 : ℚ) ≤ left * unit := by positivity
  cases sign
  · have below : dividend ≤ 0 := by
      have castBelow : (dividend : ℚ) ≤ 0 := isDividend ▸ neg_nonpos.mpr nonnegative
      exact_mod_cast castBelow
    have opposite := Int.tmod_nonneg divisor (Int.neg_nonneg_of_nonpos below)
    rw [Int.neg_tmod] at opposite
    show _ = -(((dividend.tmod divisor).natAbs : ℕ) : ℚ)
    rw [Nat.cast_natAbs, Int.cast_abs, abs_of_nonpos (by exact_mod_cast neg_nonneg.mp opposite),
      neg_neg]
  · have above : 0 ≤ dividend := by
      have castAbove : (0 : ℚ) ≤ dividend := isDividend ▸ nonnegative
      exact_mod_cast castAbove
    have same := Int.tmod_nonneg divisor above
    show _ = (((dividend.tmod divisor).natAbs : ℕ) : ℚ)
    rw [Nat.cast_natAbs, Int.cast_abs, abs_of_nonneg (by exact_mod_cast same)]

/-- The remainder of two floats that stand for whole numbers is exact. -/
theorem Holds.remainder {number number' : Float} {dividend divisor : ℤ}
    (holds : Holds number dividend) (holds' : Holds number' divisor) (nonzero : divisor ≠ 0)
    (small : dividend.natAbs ≤ 2 ^ 64) :
    Holds (remainder number number') (dividend.tmod divisor : ℤ) := by
  obtain ⟨sign, mantissa, exponent, parts, short, low, isDividend⟩ := holds.exists_parts
  obtain ⟨sign', mantissa', exponent', parts', short', low', isDivisor⟩ := holds'.exists_parts
  unfold Decimal.remainder
  rw [parts, parts']
  have divides : mantissa' ≠ 0 := by
    rintro rfl
    refine nonzero ?_
    rw [Nat.cast_zero, zero_mul, signed_eq_zero_iff.mpr rfl] at isDivisor
    exact_mod_cast isDivisor
  dsimp only
  rw [if_neg divides]
  have isLeft := mul_two_pow_toNat mantissa (min_le_left exponent exponent')
  have isRight := mul_two_pow_toNat mantissa' (min_le_right exponent exponent')
  have isRemainder := tmod_eq_signed (unit_pos (min exponent exponent')) (isLeft ▸ isDividend)
    (isRight ▸ isDivisor)
  have moderate : Moderate ((dividend.tmod divisor : ℤ) : ℚ) := by
    refine moderate_intCast (le_trans ?_ small)
    rw [Int.natAbs_tmod]
    exact Nat.mod_le _ _
  rw [isRemainder] at moderate ⊢
  refine holds_assemble sign ?_ (le_min low low') (moderate_signed_iff.mp moderate)
  -- One of the two numbers has the common unit for its own.
  have one : Nat.pow 2 (0 : ℤ).toNat = 1 := rfl
  rcases le_total exponent exponent' with below | below
  · rw [min_eq_left below, sub_self, one, mul_one]
    exact (Nat.mod_le _ _).trans_lt short
  · rw [min_eq_right below, sub_self, one, mul_one]
    exact (Nat.mod_lt _ (Nat.pos_of_ne_zero divides)).trans short'

end SlashScript.Decimal
