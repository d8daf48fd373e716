/-
This file says what the quotient and the remainder of two integers are. Unlike the sum, the
difference and the product, both are computed by way of floats. The operands are rounded to 53
binary digits, and so is the quotient of what they are rounded to; only then is it cut to an
integer. The remainder of the rounded operands is exact.

Nothing is lost by this if the dividend has no more than 53 digits, however long the divisor is.
With longer dividends the results may be those of other numbers.
-/

import SlashScript.Proofs.Rounding.Whole
import SlashScript.Value.Arithmetic

namespace SlashScript.Value

open Decimal

/-- The quotient is that of the two numbers, cut to the side of zero, and the remainder is what is
left of the dividend. -/
structure Divides (dividend divisor quotient left : ℤ) : Prop where
  isQuotient : quotient = dividend.tdiv divisor
  whole : dividend = quotient * divisor + left
  smaller : |left| < |divisor|
  sameSign : left = 0 ∨ left.sign = dividend.sign

/-- The quotient and the remainder are those of the rounded numbers, and the quotient is rounded
before it is cut. -/
def DividesRounded (dividend divisor quotient left : ℤ) : Prop :=
  ∃ (roundedDividend roundedDivisor : ℤ) (roundedQuotient : ℚ),
    RoundsTo dividend roundedDividend ∧ RoundsTo divisor roundedDivisor ∧
      RoundsTo (roundedDividend / roundedDivisor) roundedQuotient ∧
      quotient = (clampToInt64 (towardZero roundedQuotient)).toInt ∧
      left = roundedDividend.tmod roundedDivisor

/-! ### Whole numbers -/

section

variable {dividend divisor : ℤ}

theorem divides_tdiv (nonzero : divisor ≠ 0) :
    Divides dividend divisor (dividend.tdiv divisor) (dividend.tmod divisor) where
  isQuotient := rfl
  whole := (Int.tdiv_mul_add_tmod dividend divisor).symm
  smaller := by
    rw [Int.abs_eq_natAbs, Int.abs_eq_natAbs, Int.natAbs_tmod]
    exact_mod_cast Nat.mod_lt _ (Int.natAbs_pos.mpr nonzero)
  sameSign := by
    by_cases divides : divisor ∣ dividend
    · exact .inl (Int.tmod_eq_zero_of_dvd divides)
    · exact .inr (by rw [Int.sign_tmod, if_neg divides])

theorem tdiv_eq_zero_of_abs_lt (smaller : |dividend| < |divisor|) : dividend.tdiv divisor = 0 := by
  rw [Int.abs_eq_natAbs, Int.abs_eq_natAbs] at smaller
  rw [← Int.natAbs_eq_zero, Int.natAbs_tdiv]
  exact Nat.div_eq_of_lt (by exact_mod_cast smaller)

theorem moderate_div (small : dividend.natAbs ≤ 2 ^ 64) (small' : divisor.natAbs ≤ 2 ^ 64)
    (nonzero : divisor ≠ 0) : Moderate (dividend / divisor) := by
  rcases eq_or_ne dividend 0 with rfl | notZero
  · exact .inl (by rw [Int.cast_zero, zero_div])
  have positive : (1 : ℚ) ≤ |(dividend : ℚ)| := by exact_mod_cast Int.one_le_abs notZero
  have positive' : (1 : ℚ) ≤ |(divisor : ℚ)| := by exact_mod_cast Int.one_le_abs nonzero
  have most : |(dividend : ℚ)| ≤ 2 ^ (64 : ℤ) := by
    rw [← Int.cast_abs, Int.abs_eq_natAbs]
    exact_mod_cast small
  have most' : |(divisor : ℚ)| ≤ 2 ^ (64 : ℤ) := by
    rw [← Int.cast_abs, Int.abs_eq_natAbs]
    exact_mod_cast small'
  refine .inr ⟨?_, ?_⟩
  · calc (2 : ℚ) ^ (-1000 : ℤ) ≤ 2 ^ (-64 : ℤ) := zpow_le_zpow_right₀ one_le_two (by norm_num)
      _ = 1 / 2 ^ (64 : ℤ) := by rw [zpow_neg, one_div]
      _ ≤ |(dividend : ℚ)| / |(divisor : ℚ)| :=
          div_le_div₀ (abs_nonneg _) positive (by linarith) most'
      _ = |(dividend / divisor : ℚ)| := (abs_div _ _).symm
  · calc |(dividend / divisor : ℚ)| = |(dividend : ℚ)| / |(divisor : ℚ)| := abs_div _ _
      _ ≤ |(dividend : ℚ)| := div_le_self (abs_nonneg _) positive'
      _ ≤ 2 ^ (64 : ℤ) := most
      _ ≤ 2 ^ (1000 : ℤ) := zpow_le_zpow_right₀ one_le_two (by norm_num)

end

/-! ### Rounded numbers -/

section

variable {number rounded : ℤ} (rounds : RoundsTo number rounded)

include rounds

theorem rounded_ne_zero (nonzero : number ≠ 0) : rounded ≠ 0 := by
  intro isZero
  refine nonzero ?_
  have exact := rounds.eq_zero_iff.mp (by rw [isZero, Int.cast_zero])
  exact_mod_cast exact

theorem natAbs_rounded_le (small : number.natAbs ≤ 2 ^ 63) : rounded.natAbs ≤ 2 ^ 63 := by
  have castSmall : |(number : ℚ)| ≤ 2 ^ (63 : ℤ) := by
    rw [← Int.cast_abs, Int.abs_eq_natAbs]
    exact_mod_cast small
  have most := rounds.abs_rounded_le (significant_two_pow 63) castSmall
  rw [← Int.cast_abs, Int.abs_eq_natAbs] at most
  exact_mod_cast most

theorem rounded_eq (small : |number| < 2 ^ 53) : rounded = number := by
  have significant : Significant 53 (number : ℚ) := ⟨number, 0, small, by rw [zpow_zero, mul_one]⟩
  exact_mod_cast rounds.eq_of_significant significant

/-- A dividend of 53 digits is smaller than a longer divisor, and stays so when that is rounded. -/
theorem division_rounded_eq {dividend : ℤ} (small : |dividend| < 2 ^ 53) :
    dividend.tdiv rounded = dividend.tdiv number ∧
      dividend.tmod rounded = dividend.tmod number := by
  by_cases short : |number| < 2 ^ 53
  · rw [rounded_eq rounds short]
    exact ⟨rfl, rfl⟩
  · have large : (2 : ℚ) ^ (53 : ℤ) ≤ |(number : ℚ)| := by
      rw [← Int.cast_abs]
      exact_mod_cast not_lt.mp short
    have castLarge := rounds.le_abs_rounded (unit_pos 53) (significant_two_pow 53) large
    rw [← Int.cast_abs] at castLarge
    have roundedLarge : 2 ^ 53 ≤ |rounded| := by exact_mod_cast castLarge
    rw [Int.tmod_def, Int.tmod_def, tdiv_eq_zero_of_abs_lt (small.trans_le roundedLarge),
      tdiv_eq_zero_of_abs_lt (small.trans_le (not_lt.mp short)), mul_zero, mul_zero]
    exact ⟨rfl, rfl⟩

end

/-- Two numbers have one such quotient and one such remainder only. -/
theorem DividesRounded.unique {dividend divisor quotient left quotient' left' : ℤ}
    (divides : DividesRounded dividend divisor quotient left)
    (divides' : DividesRounded dividend divisor quotient' left') :
    quotient = quotient' ∧ left = left' := by
  obtain ⟨_, _, roundedQuotient, rounds, rounds', rounds'', rfl, rfl⟩ := divides
  obtain ⟨_, _, roundedQuotient', again, again', again'', rfl, rfl⟩ := divides'
  obtain rfl := Int.cast_injective (rounds.unique again)
  obtain rfl := Int.cast_injective (rounds'.unique again')
  rw [rounds''.unique again'']
  exact ⟨rfl, rfl⟩

/-- Nothing is lost by rounding if the dividend has 53 digits. -/
theorem DividesRounded.divides {dividend divisor quotient left : ℤ}
    (divides : DividesRounded dividend divisor quotient left) (small : |dividend| < 2 ^ 53)
    (nonzero : divisor ≠ 0) : Divides dividend divisor quotient left := by
  obtain ⟨roundedDividend, roundedDivisor, roundedQuotient, rounds, rounds', rounds'', rfl, rfl⟩ :=
    divides
  obtain rfl := rounded_eq rounds small
  obtain ⟨sameQuotient, sameLeft⟩ := division_rounded_eq rounds' small
  have isQuotient := towardZero_of_rounds small (rounded_ne_zero rounds' nonzero) rounds''
  have notLarger : |roundedDividend.tdiv divisor| ≤ |roundedDividend| := by
    rw [Int.abs_eq_natAbs, Int.abs_eq_natAbs, Int.natAbs_tdiv]
    exact_mod_cast Nat.div_le_self _ _
  obtain ⟨low, high⟩ := abs_lt.mp (notLarger.trans_lt small)
  rw [isQuotient, sameQuotient, sameLeft, toInt_clampToInt64 (by omega) (by omega)]
  exact divides_tdiv nonzero

/-! ### Quotients and remainders of integers -/

theorem div_integer (dividend divisor : Int64) :
    (integer dividend).div (integer divisor) =
      if ofInt64 divisor == 0.0 then .error .divisionByZero
      else .ok (integer (truncateToInt64 (ofInt64 dividend / ofInt64 divisor))) := rfl

theorem rem_integer (dividend divisor : Int64) :
    (integer dividend).rem (integer divisor) =
      if ofInt64 divisor == 0.0 then .error .moduloByZero
      else .ok (integer (truncateToInt64 (remainder (ofInt64 dividend) (ofInt64 divisor)))) := rfl

theorem toInt_ne_zero {number : Int64} (nonzero : number ≠ 0) : number.toInt ≠ 0 :=
  fun isZero => nonzero (Int64.toInt_inj.mp isZero)

/-- The test of the divisor finds zero, and nothing else is rounded to zero. -/
theorem ofInt64_beq_zero_iff (divisor : Int64) :
    (ofInt64 divisor == 0.0) = true ↔ divisor = 0 := by
  obtain ⟨rounded, rounds, holds⟩ := exists_holds_ofInt64 divisor
  rw [holds.beq_zero_iff, rounds.eq_zero_iff, ← Int64.toInt_inj]
  exact Int.cast_eq_zero

/-- The quotient and the remainder that are computed by way of floats. -/
theorem dividesRounded_ofInt64 (dividend : Int64) {divisor : Int64} (nonzero : divisor ≠ 0) :
    DividesRounded dividend.toInt divisor.toInt
      (truncateToInt64 (ofInt64 dividend / ofInt64 divisor)).toInt
      (truncateToInt64 (remainder (ofInt64 dividend) (ofInt64 divisor))).toInt := by
  obtain ⟨rounded, rounds, holds⟩ := exists_holds_ofInt64 dividend
  obtain ⟨rounded', rounds', holds'⟩ := exists_holds_ofInt64 divisor
  have nonzero' : rounded' ≠ 0 := rounded_ne_zero rounds' (toInt_ne_zero nonzero)
  have small := natAbs_rounded_le rounds (natAbs_toInt_le dividend)
  have small' := natAbs_rounded_le rounds' (natAbs_toInt_le divisor)
  obtain ⟨rounded'', rounds'', holds''⟩ := holds.div holds' (by exact_mod_cast nonzero')
    (moderate_div (by omega) (by omega) nonzero')
  have isLeft := (holds.remainder holds' nonzero' (by omega)).truncateToInt64_eq
  have leftSmaller : |rounded.tmod rounded'| < |rounded'| := (divides_tdiv nonzero').smaller
  rw [Int.abs_eq_natAbs, Int.abs_eq_natAbs] at leftSmaller
  refine ⟨rounded, rounded', rounded'', rounds, rounds', rounds'', ?_, ?_⟩
  · rw [holds''.truncateToInt64_eq]
  · rw [isLeft, towardZero_intCast, toInt_clampToInt64 (by omega) (by omega)]

/-- Two integers are divided as their rounded floats are, and exactly if the dividend has no more
than 53 binary digits. Division fails for the divisor zero and for no other. -/
theorem div_rem_integer (dividend divisor : Int64) :
    (divisor = 0 ∧ (integer dividend).div (integer divisor) = .error .divisionByZero ∧
      (integer dividend).rem (integer divisor) = .error .moduloByZero) ∨
    (divisor ≠ 0 ∧ ∃ quotient left : Int64,
      (integer dividend).div (integer divisor) = .ok (integer quotient) ∧
      (integer dividend).rem (integer divisor) = .ok (integer left) ∧
      DividesRounded dividend.toInt divisor.toInt quotient.toInt left.toInt ∧
      (|dividend.toInt| < 2 ^ 53 →
        Divides dividend.toInt divisor.toInt quotient.toInt left.toInt)) := by
  rw [div_integer, rem_integer]
  by_cases isZero : divisor = 0
  · refine .inl ⟨isZero, ?_, ?_⟩ <;> exact if_pos ((ofInt64_beq_zero_iff divisor).mpr isZero)
  · have notZero := mt (ofInt64_beq_zero_iff divisor).mp isZero
    have divides := dividesRounded_ofInt64 dividend isZero
    refine .inr ⟨isZero, _, _, if_neg notZero, if_neg notZero, divides, fun small => ?_⟩
    exact divides.divides small (toInt_ne_zero isZero)

/-- A negative dividend that has few digits. -/
theorem div_rem_integer_negative : |(-7 : Int64).toInt| < 2 ^ 53 ∧
    ∃ quotient left : Int64, (integer (-7)).div (integer 2) = .ok (integer quotient) ∧
      (integer (-7)).rem (integer 2) = .ok (integer left) ∧
      Divides (-7) 2 quotient.toInt left.toInt := by
  have small : |(-7 : Int64).toInt| < 2 ^ 53 := by decide
  rcases div_rem_integer (-7) 2 with ⟨isZero, _⟩ | ⟨_, quotient, left, isQuotient, isLeft, _, exact⟩
  · exact absurd isZero (by decide)
  · exact ⟨small, quotient, left, isQuotient, isLeft, exact small⟩

/-- With a dividend of more than 53 binary digits even the quotient by one is another number. -/
theorem not_div_rem_exact : ¬ ∀ dividend divisor : Int64, divisor ≠ 0 →
    ¬ (dividend = Int64.minValue ∧ divisor = -1) → ∃ quotient left : Int64,
      (integer dividend).div (integer divisor) = .ok (integer quotient) ∧
      (integer dividend).rem (integer divisor) = .ok (integer left) ∧
      Divides dividend.toInt divisor.toInt quotient.toInt left.toInt := by
  intro exact
  obtain ⟨quotient, left, isQuotient, -, divides⟩ :=
    exact 9007199254740993 1 (by decide) (by decide)
  have computed : (integer 9007199254740993).div (integer 1) = .ok (integer 9007199254740992) := by
    rfl
  obtain rfl : 9007199254740992 = quotient := by
    injection computed.symm.trans isQuotient with same
    injection same
  exact absurd divides.isQuotient (by decide)

end SlashScript.Value
