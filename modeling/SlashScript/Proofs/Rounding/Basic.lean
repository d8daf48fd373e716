/-
This file says what it is to round a number to 53 binary digits. The number becomes a multiple of a
unit, a power of two that leaves 53 digits before it: the nearest multiple, or the even one of two
that are equally near. Rounding keeps the order towards numbers that have no more digits, so these
are not changed themselves, and what it changes is small in relation to the number. Therefore a
quotient of whole numbers cannot be rounded up to the next whole number if the dividend has no more
than 53 digits.
-/

import Mathlib.Algebra.Order.Field.Power
import Mathlib.Data.Rat.Floor
import Mathlib.Tactic.Linarith
import Mathlib.Tactic.NormNum
import Mathlib.Tactic.Positivity

namespace SlashScript.Decimal

/-! ### Rounding to 53 digits -/

/-- The number has no more than so many binary digits, wherever its point stands. -/
def Significant (digits : ℕ) (number : ℚ) : Prop :=
  ∃ mantissa exponent : ℤ, |mantissa| < 2 ^ digits ∧ number = mantissa * 2 ^ exponent

/-- The number is rounded to so many of the units that are the power of two with this exponent. -/
structure RoundsAt (mantissa exponent : ℤ) (exact rounded : ℚ) : Prop where
  least : 2 ^ 52 * 2 ^ exponent ≤ |exact|
  most : |exact| < 2 ^ 53 * 2 ^ exponent
  multiple : rounded = mantissa * 2 ^ exponent
  nearest : |exact - rounded| ≤ 2 ^ exponent / 2
  even : |exact - rounded| = 2 ^ exponent / 2 → Even mantissa

/-- The number is rounded to the nearest number with 53 binary digits, the even one of two that are
equally near. -/
def RoundsTo (exact rounded : ℚ) : Prop :=
  exact = 0 ∧ rounded = 0 ∨ ∃ mantissa exponent : ℤ, RoundsAt mantissa exponent exact rounded

theorem unit_pos (exponent : ℤ) : (0 : ℚ) < 2 ^ exponent :=
  zpow_pos two_pos exponent

theorem RoundsAt.neg {mantissa exponent : ℤ} {exact rounded : ℚ}
    (rounds : RoundsAt mantissa exponent exact rounded) :
    RoundsAt (-mantissa) exponent (-exact) (-rounded) := by
  have sameError : |(-exact) - (-rounded)| = |exact - rounded| := by
    rw [neg_sub_neg, abs_sub_comm]
  refine ⟨?_, ?_, ?_, ?_, fun isTie => ?_⟩
  · rw [abs_neg]
    exact rounds.least
  · rw [abs_neg]
    exact rounds.most
  · rw [rounds.multiple]
    push_cast
    ring
  · rw [sameError]
    exact rounds.nearest
  · rw [sameError] at isTie
    exact (rounds.even isTie).neg

theorem RoundsTo.neg {exact rounded : ℚ} (rounds : RoundsTo exact rounded) :
    RoundsTo (-exact) (-rounded) := by
  rcases rounds with ⟨rfl, rfl⟩ | ⟨mantissa, exponent, rounds⟩
  · exact .inl ⟨neg_zero, neg_zero⟩
  · exact .inr ⟨_, _, rounds.neg⟩

theorem RoundsTo.of_zero {rounded : ℚ} (rounds : RoundsTo 0 rounded) : rounded = 0 := by
  rcases rounds with ⟨_, isZero⟩ | ⟨mantissa, exponent, rounds⟩
  · exact isZero
  · have unit := unit_pos exponent
    have least := rounds.least
    rw [abs_zero] at least
    nlinarith

/-! ### Rounding keeps the order -/

/-- A number of 53 digits that is not too small is a multiple of the unit. -/
theorem Significant.exists_multiple {number : ℚ} (significant : Significant 53 number)
    {exponent : ℤ} (least : 2 ^ 52 * 2 ^ exponent ≤ |number|) :
    ∃ multiple : ℤ, number = multiple * 2 ^ exponent := by
  obtain ⟨mantissa, own, small, rfl⟩ := significant
  -- The digits of the number begin above the unit, and so they end at the unit or above it.
  have greater : exponent ≤ own := by
    have smallAbs : |(mantissa : ℚ)| < 2 ^ 53 := by exact_mod_cast small
    have unit := unit_pos own
    rw [abs_mul, abs_of_pos unit] at least
    have bound : (2 : ℚ) ^ (52 + exponent) < 2 ^ (53 + own) := by
      rw [zpow_add₀ two_ne_zero, zpow_add₀ two_ne_zero]
      calc (2 : ℚ) ^ (52 : ℤ) * 2 ^ exponent ≤ |(mantissa : ℚ)| * 2 ^ own := least
        _ < 2 ^ (53 : ℤ) * 2 ^ own := mul_lt_mul_of_pos_right smallAbs unit
    have := (zpow_lt_zpow_iff_right₀ one_lt_two).mp bound
    omega
  refine ⟨mantissa * 2 ^ (own - exponent).toNat, ?_⟩
  have split : own = ((own - exponent).toNat : ℤ) + exponent := by omega
  conv_lhs => rw [split, zpow_add₀ two_ne_zero, zpow_natCast]
  push_cast
  ring

section

variable {mantissa exponent : ℤ} {exact rounded : ℚ}
  (rounds : RoundsAt mantissa exponent exact rounded)

include rounds

theorem RoundsAt.error_le : |exact - rounded| ≤ |exact| / 2 ^ 53 := by
  have least := rounds.least
  have nearest := rounds.nearest
  rw [le_div_iff₀ (by positivity)]
  linarith

/-- No number of 53 digits lies between a number and what it is rounded to. -/
theorem RoundsAt.le_of_le (positive : 0 < exact) {other : ℚ} (significant : Significant 53 other)
    (greater : exact ≤ other) : rounded ≤ other := by
  have unit := unit_pos exponent
  have least := rounds.least
  have nearest := abs_le.mp rounds.nearest
  rw [abs_of_pos positive] at least
  have otherLeast : 2 ^ 52 * 2 ^ exponent ≤ |other| :=
    (least.trans greater).trans (le_abs_self other)
  obtain ⟨multiple, rfl⟩ := significant.exists_multiple otherLeast
  rw [rounds.multiple] at nearest ⊢
  have close : (mantissa : ℚ) * 2 ^ exponent < (multiple + 1) * 2 ^ exponent := by linarith
  have ordered : mantissa < multiple + 1 := by
    exact_mod_cast lt_of_mul_lt_mul_right close unit.le
  have castOrdered : (mantissa : ℚ) ≤ multiple := by exact_mod_cast Int.lt_add_one_iff.mp ordered
  exact mul_le_mul_of_nonneg_right castOrdered unit.le

theorem RoundsAt.least_mantissa (positive : 0 < exact) : 2 ^ 52 ≤ mantissa := by
  have unit := unit_pos exponent
  have least := rounds.least
  have nearest := abs_le.mp rounds.nearest
  rw [abs_of_pos positive] at least
  rw [rounds.multiple] at nearest
  have close : (2 ^ 52 : ℚ) * 2 ^ exponent < (mantissa + 1) * 2 ^ exponent := by linarith
  have ordered : (2 : ℤ) ^ 52 < mantissa + 1 := by
    exact_mod_cast lt_of_mul_lt_mul_right close unit.le
  omega

theorem RoundsAt.le_of_ge (positive : 0 < exact) {other : ℚ} (significant : Significant 53 other)
    (smaller : other ≤ exact) : other ≤ rounded := by
  have unit := unit_pos exponent
  have nearest := abs_le.mp rounds.nearest
  have leastMantissa : (2 ^ 52 : ℚ) ≤ mantissa := by
    exact_mod_cast rounds.least_mantissa positive
  rw [rounds.multiple] at nearest ⊢
  by_cases otherLeast : 2 ^ 52 * 2 ^ exponent ≤ |other|
  · by_cases otherPositive : 0 ≤ other
    · obtain ⟨multiple, rfl⟩ := significant.exists_multiple otherLeast
      have close : (multiple : ℚ) * 2 ^ exponent < (mantissa + 1) * 2 ^ exponent := by linarith
      have ordered : multiple < mantissa + 1 := by
        exact_mod_cast lt_of_mul_lt_mul_right close unit.le
      have castOrdered : (multiple : ℚ) ≤ mantissa := by
        exact_mod_cast Int.lt_add_one_iff.mp ordered
      exact mul_le_mul_of_nonneg_right castOrdered unit.le
    · nlinarith
  · have below := (le_abs_self other).trans (not_le.mp otherLeast).le
    exact below.trans (mul_le_mul_of_nonneg_right leastMantissa unit.le)

/-- The unit grows with the number, and a number has one unit only. -/
theorem RoundsAt.exponent_le {mantissa' exponent' : ℤ} {exact' rounded' : ℚ}
    (rounds' : RoundsAt mantissa' exponent' exact' rounded') (ordered : |exact| ≤ |exact'|) :
    exponent ≤ exponent' := by
  have bound : (2 : ℚ) ^ (52 + exponent) < 2 ^ (53 + exponent') := by
    rw [zpow_add₀ two_ne_zero, zpow_add₀ two_ne_zero]
    exact (rounds.least.trans ordered).trans_lt rounds'.most
  have := (zpow_lt_zpow_iff_right₀ one_lt_two).mp bound
  omega

/-- Two multiples of the unit cannot both be nearest: the even one is taken. -/
theorem RoundsAt.mantissa_le {mantissa' : ℤ} {rounded' : ℚ}
    (rounds' : RoundsAt mantissa' exponent exact rounded') : mantissa ≤ mantissa' := by
  by_contra! less
  have unit := unit_pos exponent
  have nearest := abs_le.mp rounds.nearest
  have nearest' := abs_le.mp rounds'.nearest
  rw [rounds.multiple] at nearest
  rw [rounds'.multiple] at nearest'
  have close : (mantissa : ℚ) * 2 ^ exponent ≤ (mantissa' + 1) * 2 ^ exponent := by linarith
  have next : mantissa = mantissa' + 1 := by
    have ordered : (mantissa : ℚ) ≤ (mantissa' + 1 : ℤ) := by
      exact_mod_cast le_of_mul_le_mul_right close unit
    have castOrdered : mantissa ≤ mantissa' + 1 := by exact_mod_cast ordered
    omega
  rw [next] at nearest
  push_cast at nearest
  have error : exact - rounded = -(2 ^ exponent / 2) := by
    rw [rounds.multiple, next]
    push_cast
    linarith
  have error' : exact - rounded' = 2 ^ exponent / 2 := by
    rw [rounds'.multiple]
    linarith
  have even := rounds.even (by rw [error, abs_neg, abs_of_pos (by linarith)])
  have even' := rounds'.even (by rw [error', abs_of_pos (by linarith)])
  rw [next] at even
  exact Int.not_even_iff_odd.mpr even'.add_one even

end

/-! ### Numbers that have 53 digits -/

theorem Significant.neg {digits : ℕ} {number : ℚ} (significant : Significant digits number) :
    Significant digits (-number) := by
  obtain ⟨mantissa, exponent, small, rfl⟩ := significant
  refine ⟨-mantissa, exponent, (abs_neg mantissa).symm ▸ small, ?_⟩
  push_cast
  ring

theorem significant_of_lt {digits number : ℕ} (small : number < 2 ^ digits) (exponent : ℤ) :
    Significant digits (number * 2 ^ exponent) := by
  refine ⟨number, exponent, ?_, by push_cast; rfl⟩
  rw [Nat.abs_cast]
  exact_mod_cast small

theorem significant_natCast {number : ℕ} (small : number < 2 ^ 53) :
    Significant 53 (number : ℚ) := by
  have significant := significant_of_lt small 0
  rwa [zpow_zero, mul_one] at significant

theorem significant_two_pow (exponent : ℤ) : Significant 53 (2 ^ exponent) := by
  have one : Significant 53 ((1 : ℕ) * 2 ^ exponent) := significant_of_lt (by norm_num) exponent
  rwa [Nat.cast_one, one_mul] at one

namespace RoundsTo

variable {exact rounded : ℚ} (rounds : RoundsTo exact rounded)

include rounds

theorem error_le : |exact - rounded| ≤ |exact| / 2 ^ 53 := by
  rcases rounds with ⟨rfl, rfl⟩ | ⟨mantissa, exponent, rounds⟩
  · simp
  · exact rounds.error_le

theorem le_of_le (positive : 0 < exact) {other : ℚ} (significant : Significant 53 other)
    (greater : exact ≤ other) : rounded ≤ other := by
  rcases rounds with ⟨isZero, _⟩ | ⟨mantissa, exponent, rounds⟩
  · exact absurd isZero positive.ne'
  · exact rounds.le_of_le positive significant greater

theorem le_of_ge (positive : 0 < exact) {other : ℚ} (significant : Significant 53 other)
    (smaller : other ≤ exact) : other ≤ rounded := by
  rcases rounds with ⟨isZero, _⟩ | ⟨mantissa, exponent, rounds⟩
  · exact absurd isZero positive.ne'
  · exact rounds.le_of_ge positive significant smaller

/-- A number of 53 digits is not changed. -/
theorem eq_of_significant (significant : Significant 53 exact) : rounded = exact := by
  rcases lt_trichotomy exact 0 with negative | rfl | positive
  · have opposite : 0 < -exact := neg_pos.mpr negative
    have same := le_antisymm (rounds.neg.le_of_le opposite significant.neg le_rfl)
      (rounds.neg.le_of_ge opposite significant.neg le_rfl)
    exact neg_injective same
  · exact rounds.of_zero
  · exact le_antisymm (rounds.le_of_le positive significant le_rfl)
      (rounds.le_of_ge positive significant le_rfl)

theorem pos (positive : 0 < exact) : 0 < rounded := by
  have error := (abs_le.mp rounds.error_le).2
  rw [abs_of_pos positive] at error
  linarith [div_lt_self positive (by norm_num : (1 : ℚ) < 2 ^ 53)]

theorem eq_zero_iff : rounded = 0 ↔ exact = 0 := by
  constructor
  · intro isZero
    rcases lt_trichotomy exact 0 with negative | isZero' | positive
    · have opposite := rounds.neg.pos (neg_pos.mpr negative)
      linarith
    · exact isZero'
    · exact absurd isZero (rounds.pos positive).ne'
  · rintro rfl
    exact rounds.of_zero

/-- A number is rounded to one number only. -/
theorem unique {rounded' : ℚ} (rounds' : RoundsTo exact rounded') : rounded = rounded' := by
  rcases rounds with ⟨rfl, rfl⟩ | ⟨mantissa, exponent, rounds⟩
  · exact rounds'.of_zero.symm
  rcases rounds' with ⟨rfl, rfl⟩ | ⟨mantissa', exponent', rounds'⟩
  · exact of_zero (.inr ⟨mantissa, exponent, rounds⟩)
  obtain rfl := le_antisymm (rounds.exponent_le rounds' le_rfl) (rounds'.exponent_le rounds le_rfl)
  obtain rfl := le_antisymm (rounds.mantissa_le rounds') (rounds'.mantissa_le rounds)
  rw [rounds.multiple, rounds'.multiple]

/-- The size of a number is rounded in the same way. -/
theorem magnitude : RoundsTo |exact| |rounded| := by
  rcases lt_trichotomy exact 0 with negative | rfl | positive
  · have opposite := rounds.neg.pos (neg_pos.mpr negative)
    rw [abs_of_neg negative, abs_of_neg (neg_pos.mp opposite)]
    exact rounds.neg
  · rw [rounds.of_zero, abs_zero]
    exact .inl ⟨rfl, rfl⟩
  · rw [abs_of_pos positive, abs_of_pos (rounds.pos positive)]
    exact rounds

theorem abs_rounded_le {most : ℚ} (significant : Significant 53 most) (small : |exact| ≤ most) :
    |rounded| ≤ most := by
  rcases eq_or_ne exact 0 with rfl | nonzero
  · rwa [rounds.of_zero]
  · exact rounds.magnitude.le_of_le (abs_pos.mpr nonzero) significant small

theorem le_abs_rounded {least : ℚ} (positive : 0 < least) (significant : Significant 53 least)
    (large : least ≤ |exact|) : least ≤ |rounded| :=
  rounds.magnitude.le_of_ge (positive.trans_le large) significant large

end RoundsTo

section

variable {mantissa exponent mantissa' exponent' : ℤ} {exact rounded exact' rounded' : ℚ}

/-- Two numbers with one unit are rounded in their order, as each lies within half a unit of what it
is rounded to. Between two with different units lies a power of two that rounding does not pass. -/
theorem RoundsAt.le_of_lt (rounds : RoundsAt mantissa exponent exact rounded)
    (rounds' : RoundsAt mantissa' exponent' exact' rounded') (positive : 0 < exact)
    (less : exact < exact') : rounded ≤ rounded' := by
  have positive' : 0 < exact' := positive.trans less
  have sizes : |exact| ≤ |exact'| := by
    rw [abs_of_pos positive, abs_of_pos positive']
    exact less.le
  rcases (rounds.exponent_le rounds' sizes).eq_or_lt with rfl | before
  · have unit := unit_pos exponent
    have nearest := abs_le.mp rounds.nearest
    have nearest' := abs_le.mp rounds'.nearest
    rw [rounds.multiple] at nearest ⊢
    rw [rounds'.multiple] at nearest' ⊢
    have close : (mantissa : ℚ) * 2 ^ exponent < (mantissa' + 1) * 2 ^ exponent := by linarith
    have next : mantissa < mantissa' + 1 := by
      exact_mod_cast lt_of_mul_lt_mul_right close unit.le
    have castLe : (mantissa : ℚ) ≤ mantissa' := by exact_mod_cast Int.lt_add_one_iff.mp next
    exact mul_le_mul_of_nonneg_right castLe unit.le
  · have middle : Significant 53 (2 ^ (52 + exponent')) := significant_two_pow _
    have above : exact ≤ 2 ^ (52 + exponent') := by
      have most := rounds.most
      rw [abs_of_pos positive] at most
      calc exact ≤ 2 ^ (53 : ℤ) * 2 ^ exponent := most.le
        _ = 2 ^ (53 + exponent) := (zpow_add₀ two_ne_zero _ _).symm
        _ ≤ 2 ^ (52 + exponent') := zpow_le_zpow_right₀ one_le_two (by omega)
    have below : 2 ^ (52 + exponent') ≤ exact' := by
      have least := rounds'.least
      rw [abs_of_pos positive'] at least
      rw [zpow_add₀ two_ne_zero]
      exact least
    exact (rounds.le_of_le positive middle above).trans
      (rounds'.le_of_ge positive' middle below)

theorem RoundsTo.le_of_lt (rounds : RoundsTo exact rounded) (rounds' : RoundsTo exact' rounded')
    (positive : 0 < exact) (less : exact < exact') : rounded ≤ rounded' := by
  rcases rounds with ⟨isZero, _⟩ | ⟨_, _, rounds⟩
  · exact absurd isZero positive.ne'
  rcases rounds' with ⟨isZero, _⟩ | ⟨_, _, rounds'⟩
  · exact absurd isZero (positive.trans less).ne'
  exact rounds.le_of_lt rounds' positive less

/-- Rounding keeps the order of any two numbers. -/
theorem RoundsTo.mono (rounds : RoundsTo exact rounded) (rounds' : RoundsTo exact' rounded')
    (ordered : exact ≤ exact') : rounded ≤ rounded' := by
  rcases ordered.eq_or_lt with rfl | less
  · exact (rounds.unique rounds').le
  rcases lt_trichotomy exact 0 with negative | rfl | positive
  · rcases lt_trichotomy exact' 0 with negative' | rfl | positive'
    · exact neg_le_neg_iff.mp (rounds'.neg.le_of_lt rounds.neg (neg_pos.mpr negative')
        (neg_lt_neg less))
    · rw [rounds'.of_zero]
      exact (neg_pos.mp (rounds.neg.pos (neg_pos.mpr negative))).le
    · exact (neg_pos.mp (rounds.neg.pos (neg_pos.mpr negative))).le.trans
        (rounds'.pos positive').le
  · rw [rounds.of_zero]
    exact (rounds'.pos less).le
  · exact rounds.le_of_lt rounds' positive less

end

/-- A whole number is rounded to a whole number. -/
theorem RoundsTo.exists_nat {number : ℕ} {rounded : ℚ} (rounds : RoundsTo number rounded) :
    ∃ whole : ℕ, rounded = whole := by
  by_cases small : number < 2 ^ 53
  · exact ⟨number, rounds.eq_of_significant (significant_natCast small)⟩
  · have large : (2 ^ 53 : ℚ) ≤ number := by exact_mod_cast not_lt.mp small
    rcases rounds with ⟨isZero, _⟩ | ⟨mantissa, exponent, rounds⟩
    · rw [isZero] at large
      norm_num at large
    have positive : (0 : ℚ) < number := lt_of_lt_of_le (by norm_num) large
    have leastMantissa := rounds.least_mantissa positive
    have whole : 0 ≤ exponent := by
      have most := rounds.most
      rw [abs_of_pos positive] at most
      have unit : (2 : ℚ) ^ (0 : ℤ) < 2 ^ exponent := by
        rw [zpow_zero]
        nlinarith
      exact ((zpow_lt_zpow_iff_right₀ one_lt_two).mp unit).le
    refine ⟨mantissa.toNat * 2 ^ exponent.toNat, ?_⟩
    have castMantissa : ((mantissa.toNat : ℕ) : ℚ) = mantissa := by
      exact_mod_cast Int.toNat_of_nonneg (by omega : 0 ≤ mantissa)
    have castUnit : (2 : ℚ) ^ exponent = 2 ^ exponent.toNat := by
      conv_lhs => rw [← Int.toNat_of_nonneg whole, zpow_natCast]
    rw [rounds.multiple, castUnit]
    push_cast
    rw [castMantissa]

/-! ### Rounded quotients -/

/-- The whole number next to a number on the side of zero. -/
def towardZero (number : ℚ) : ℤ :=
  if number < 0 then ⌈number⌉ else ⌊number⌋

theorem towardZero_neg (number : ℚ) : towardZero (-number) = -towardZero number := by
  unfold towardZero
  rcases lt_trichotomy number 0 with negative | rfl | positive
  · rw [if_neg (by linarith), if_pos negative, Int.floor_neg]
  · simp
  · rw [if_pos (by linarith), if_neg (by linarith), Int.ceil_neg]

/-- What rounding a quotient changes in the dividend. -/
theorem RoundsTo.dividend_error_le {dividend divisor : ℕ} (positive : 0 < divisor) {quotient : ℚ}
    (rounds : RoundsTo (dividend / divisor) quotient) :
    |dividend - quotient * divisor| ≤ (dividend : ℚ) / 2 ^ 53 := by
  have castPositive : (0 : ℚ) < divisor := by exact_mod_cast positive
  have exactDividend : (dividend : ℚ) / divisor * divisor = dividend :=
    div_mul_cancel₀ _ castPositive.ne'
  calc |dividend - quotient * divisor| = |(dividend : ℚ) / divisor - quotient| * divisor := by
        rw [← abs_of_pos castPositive, ← abs_mul, sub_mul, abs_of_pos castPositive, exactDividend]
    _ ≤ |(dividend : ℚ) / divisor| / 2 ^ 53 * divisor :=
        mul_le_mul_of_nonneg_right rounds.error_le castPositive.le
    _ = dividend / 2 ^ 53 := by
        rw [abs_of_nonneg (by positivity), div_mul_eq_mul_div, exactDividend]

/-- A quotient is not rounded up to the next whole number if the dividend has 53 digits. -/
theorem floor_of_rounds {dividend divisor : ℕ} (small : dividend < 2 ^ 53)
    (positive : 0 < divisor) {quotient : ℚ}
    (rounds : RoundsTo (dividend / divisor) quotient) :
    ⌊quotient⌋ = (dividend / divisor : ℕ) := by
  have castPositive : (0 : ℚ) < divisor := by exact_mod_cast positive
  by_cases divides : divisor ∣ dividend
  · obtain ⟨whole, rfl⟩ := divides
    have smallWhole : whole < 2 ^ 53 := lt_of_le_of_lt (Nat.le_mul_of_pos_left _ positive) small
    have isWhole : ((divisor * whole : ℕ) : ℚ) / divisor = whole := by
      rw [Nat.cast_mul, mul_div_cancel_left₀ _ castPositive.ne']
    rw [isWhole] at rounds
    rw [rounds.eq_of_significant (significant_natCast smallWhole),
      Nat.mul_div_cancel_left _ positive, Int.floor_natCast]
  · -- What is left over is at least one, and the error in the whole dividend is less than one.
    have above : dividend / divisor * divisor + 1 ≤ dividend := by
      have left := Nat.pos_of_ne_zero (mt Nat.dvd_of_mod_eq_zero divides)
      have whole := Nat.div_add_mod' dividend divisor
      omega
    have below : dividend + 1 ≤ (dividend / divisor + 1) * divisor :=
      Nat.lt_mul_of_div_lt (Nat.lt_succ_self _) positive
    generalize dividend / divisor = whole at above below
    have castAbove : (whole : ℚ) * divisor + 1 ≤ dividend := by exact_mod_cast above
    have castBelow : (dividend : ℚ) + 1 ≤ (whole + 1) * divisor := by exact_mod_cast below
    have lessThanOne : (dividend : ℚ) / 2 ^ 53 < 1 := by
      rw [div_lt_one (by positivity)]
      exact_mod_cast small
    obtain ⟨errorBelow, errorAbove⟩ := abs_le.mp (rounds.dividend_error_le positive)
    rw [Int.floor_eq_iff, Int.cast_natCast]
    constructor
    · refine le_of_mul_le_mul_right ?_ castPositive
      linarith
    · refine lt_of_mul_lt_mul_right ?_ castPositive.le
      linarith

theorem towardZero_of_rounds_nat {dividend divisor : ℕ} (small : dividend < 2 ^ 53)
    (positive : 0 < divisor) {quotient : ℚ} (rounds : RoundsTo (dividend / divisor) quotient) :
    towardZero quotient = (dividend / divisor : ℕ) := by
  have nonnegative : 0 ≤ quotient := by
    have exactNonnegative : (0 : ℚ) ≤ dividend / divisor := by positivity
    rcases exactNonnegative.eq_or_lt with isZero | isPositive
    · exact (rounds.eq_zero_iff.mpr isZero.symm).ge
    · exact (rounds.pos isPositive).le
  rw [towardZero, if_neg (not_lt.mpr nonnegative), floor_of_rounds small positive rounds]

/-- A quotient of whole numbers keeps its whole part when it is rounded, if the dividend has 53
digits. -/
theorem towardZero_of_rounds {dividend divisor : ℤ} (small : |dividend| < 2 ^ 53)
    (nonzero : divisor ≠ 0) {quotient : ℚ} (rounds : RoundsTo (dividend / divisor) quotient) :
    towardZero quotient = dividend.tdiv divisor := by
  have natural {magnitude magnitude' : ℕ} (small : (magnitude : ℤ) < 2 ^ 53)
      (nonzero : magnitude' ≠ 0) {quotient : ℚ}
      (rounds : RoundsTo (magnitude / magnitude') quotient) :
      towardZero quotient = (magnitude : ℤ).tdiv magnitude' := by
    rw [towardZero_of_rounds_nat (by exact_mod_cast small) (Nat.pos_of_ne_zero nonzero) rounds]
    exact Int.ofNat_tdiv magnitude magnitude'
  obtain ⟨magnitude, rfl | rfl⟩ := Int.eq_nat_or_neg dividend <;>
    obtain ⟨magnitude', rfl | rfl⟩ := Int.eq_nat_or_neg divisor <;>
    simp only [abs_neg, Nat.abs_cast, ne_eq, neg_eq_zero, Int.natCast_eq_zero, Int.cast_neg,
      Int.cast_natCast, neg_div, div_neg, neg_neg, Int.neg_tdiv, Int.tdiv_neg] at *
  · exact natural small nonzero rounds
  · rw [← natural small nonzero (neg_neg (_ : ℚ) ▸ rounds.neg), towardZero_neg, neg_neg]
  · rw [← natural small nonzero (neg_neg (_ : ℚ) ▸ rounds.neg), towardZero_neg, neg_neg]
  · exact natural small nonzero rounds

end SlashScript.Decimal
