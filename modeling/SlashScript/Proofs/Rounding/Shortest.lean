/-
This file says that the shortest decimal of a number is near to it, so that it is read back as that
number. The search tries the powers of ten from the one of the leading digit down, and takes the
first whose multiples next to the number are near enough. Seventeen digits are always fine enough.
Whole numbers are multiples of one, and so the search ends before it comes to tenths.
-/

import Mathlib.Data.Nat.Cast.Field
import Mathlib.Data.Nat.Cast.Order.Field
import SlashScript.Decimal.Shortest
import SlashScript.Proofs.Rounding.Scientific

namespace SlashScript.Decimal

/-! ### Fractions -/

theorem scaleByTwo_pos (mantissa : ℕ) (exponent : ℤ) : 0 < (scaleByTwo mantissa exponent).2 := by
  unfold scaleByTwo
  split
  · exact one_pos
  · exact Nat.pow_pos two_pos

/-- A number without a fraction is its whole part. -/
theorem natCast_wholePart {mantissa : ℕ} {exponent : ℤ} (whole : isWhole mantissa exponent = true) :
    (((wholePart false mantissa exponent).toNat : ℕ) : ℚ) = mantissa * 2 ^ exponent := by
  have positive := scaleByTwo_pos mantissa exponent
  rw [← scaleByTwo_eq]
  unfold isWhole at whole
  unfold wholePart
  generalize scaleByTwo mantissa exponent = fraction at whole positive
  obtain ⟨numerator, denominator⟩ := fraction
  have divides := Nat.dvd_of_mod_eq_zero (beq_iff_eq.mp whole)
  exact Nat.cast_div divides (by exact_mod_cast positive.ne')

theorem isWhole_iff {mantissa : ℕ} {exponent : ℤ} :
    isWhole mantissa exponent = true ↔ ∃ whole : ℕ, (mantissa * 2 ^ exponent : ℚ) = whole := by
  refine ⟨fun whole => ⟨_, (natCast_wholePart whole).symm⟩, fun ⟨whole, same⟩ => ?_⟩
  have positive := scaleByTwo_pos mantissa exponent
  rw [← scaleByTwo_eq] at same
  unfold isWhole
  generalize scaleByTwo mantissa exponent = fraction at same positive
  obtain ⟨numerator, denominator⟩ := fraction
  rw [div_eq_iff (by exact_mod_cast positive.ne')] at same
  have product : numerator = whole * denominator := by exact_mod_cast same
  rw [product]
  exact beq_iff_eq.mpr (Nat.mul_mod_left _ _)

/-! ### Multiples of a power of ten -/

/-- A number lies in the interval, whose ends are given in quarters. -/
def Interval.Covers (interval : Interval) (quarter : ℤ) (number : ℚ) : Prop :=
  if interval.closed then
    interval.lower * 2 ^ quarter ≤ number ∧ number ≤ interval.upper * 2 ^ quarter
  else interval.lower * 2 ^ quarter < number ∧ number < interval.upper * 2 ^ quarter

/-- The quarters and the powers of ten are compared as whole numbers. -/
theorem exists_scale (quarter exponent : ℤ) : ∃ scale : ℚ, 0 < scale ∧
    (((scaleByTwo 1 quarter).1 *
      if 0 ≤ exponent then 1 else Nat.pow 10 (-exponent).toNat : ℕ) : ℚ) = 2 ^ quarter * scale ∧
    (((if 0 ≤ exponent then Nat.pow 10 exponent.toNat else 1) *
      (scaleByTwo 1 quarter).2 : ℕ) : ℚ) = 10 ^ exponent * scale := by
  have positive : (0 : ℚ) < (scaleByTwo 1 quarter).2 := by
    exact_mod_cast scaleByTwo_pos 1 quarter
  have isUnit := scaleByTwo_eq 1 quarter
  rw [Nat.cast_one, one_mul, div_eq_iff positive.ne'] at isUnit
  by_cases above : 0 ≤ exponent
  · refine ⟨_, positive, ?_, ?_⟩
    · rw [if_pos above, mul_one, isUnit]
    · rw [if_pos above, Nat.cast_mul, natCast_pow_toNat 10 above, Nat.cast_ofNat]
  · have tens := natCast_pow_toNat 10 (by omega : 0 ≤ -exponent)
    rw [zpow_neg, Nat.cast_ofNat] at tens
    refine ⟨(10 ^ exponent)⁻¹ * (scaleByTwo 1 quarter).2, by positivity, ?_, ?_⟩
    · rw [if_neg above, Nat.cast_mul, isUnit, tens]
      ring
    · rw [if_neg above, one_mul, mul_inv_cancel_left₀ (by positivity)]

/-- A multiple of a power of ten is found to be in the interval if it is. -/
theorem Interval.contains_iff (interval : Interval) {quarter exponent : ℤ} {unit grid : ℕ}
    {scale : ℚ} (positive : 0 < scale) (isUnit : (unit : ℚ) = 2 ^ quarter * scale)
    (isGrid : (grid : ℚ) = 10 ^ exponent * scale) (digits : ℕ) :
    interval.contains unit (digits * grid) = true ↔
      interval.Covers quarter (digits * 10 ^ exponent) := by
  have scaled : ∀ bound : ℕ, ((bound * unit : ℕ) : ℚ) = bound * 2 ^ quarter * scale := by
    intro bound
    rw [Nat.cast_mul, isUnit, mul_assoc]
  have isPoint : ((digits * grid : ℕ) : ℚ) = digits * 10 ^ exponent * scale := by
    rw [Nat.cast_mul, isGrid, mul_assoc]
  unfold contains Covers
  cases interval.closed
  · simp only [Bool.false_eq_true, if_false, Bool.and_eq_true, decide_eq_true_eq]
    rw [← @Nat.cast_lt ℚ, ← @Nat.cast_lt ℚ, scaled, scaled, isPoint,
      mul_lt_mul_iff_left₀ positive, mul_lt_mul_iff_left₀ positive]
  · simp only [if_true, Bool.and_eq_true, decide_eq_true_eq]
    rw [← @Nat.cast_le ℚ, ← @Nat.cast_le ℚ, scaled, scaled, isPoint,
      mul_le_mul_iff_left₀ positive, mul_le_mul_iff_left₀ positive]

/-- Of the multiples of a power of ten, the two next to the number are tried. -/
theorem onGrid_cases (interval : Interval) (quarter exponent : ℤ) :
    ∃ below : ℕ, below * 10 ^ exponent ≤ (interval.middle * 2 ^ quarter : ℚ) ∧
      (interval.middle * 2 ^ quarter : ℚ) < (below + 1 : ℕ) * 10 ^ exponent ∧
        (onGrid interval quarter exponent = none ∧
            ¬ interval.Covers quarter (below * 10 ^ exponent) ∧
              ¬ interval.Covers quarter ((below + 1 : ℕ) * 10 ^ exponent) ∨
          ∃ digits, onGrid interval quarter exponent = some ⟨digits, exponent⟩ ∧
            interval.Covers quarter (digits * 10 ^ exponent)) := by
  obtain ⟨scale, positive, isUnit, isGrid⟩ := exists_scale quarter exponent
  unfold onGrid
  dsimp only
  generalize (scaleByTwo 1 quarter).1 *
    (if 0 ≤ exponent then 1 else Nat.pow 10 (-exponent).toNat) = unit at isUnit
  generalize (if 0 ≤ exponent then Nat.pow 10 exponent.toNat else 1) *
    (scaleByTwo 1 quarter).2 = grid at isGrid
  have contains := interval.contains_iff positive isUnit isGrid
  have gridPositive : 0 < grid := by
    have castPositive : (0 : ℚ) < grid := by
      rw [isGrid]
      positivity
    exact_mod_cast castPositive
  have isMiddle : ((interval.middle * unit : ℕ) : ℚ) = interval.middle * 2 ^ quarter * scale := by
    rw [Nat.cast_mul, isUnit, mul_assoc]
  have scaled : ∀ digits : ℕ, ((digits * grid : ℕ) : ℚ) = digits * 10 ^ exponent * scale := by
    intro digits
    rw [Nat.cast_mul, isGrid, mul_assoc]
  refine ⟨interval.middle * unit / grid, ?_, ?_, ?_⟩
  · refine le_of_mul_le_mul_right ?_ positive
    rw [← isMiddle, ← scaled]
    exact_mod_cast Nat.div_mul_le_self _ _
  · refine lt_of_mul_lt_mul_right ?_ positive.le
    rw [← isMiddle, ← scaled, mul_comm _ grid]
    exact_mod_cast Nat.lt_mul_div_succ _ gridPositive
  · rw [← contains, ← contains]
    generalize interval.middle * unit / grid = below
    cases belowFits : interval.contains unit (below * grid) <;>
      cases aboveFits : interval.contains unit ((below + 1) * grid)
    · exact .inl ⟨rfl, Bool.false_ne_true, Bool.false_ne_true⟩
    · exact .inr ⟨below + 1, rfl, (contains _).mp aboveFits⟩
    · exact .inr ⟨below, rfl, (contains _).mp belowFits⟩
    · refine .inr ⟨_, rfl, ?_⟩
      split
      · exact (contains _).mp belowFits
      · exact (contains _).mp aboveFits

theorem onGrid_eq_some {interval : Interval} {quarter exponent : ℤ} {numeral : Numeral}
    (found : onGrid interval quarter exponent = some numeral) :
    numeral.exponent = exponent ∧ interval.Covers quarter (numeral.digits * 10 ^ exponent) := by
  obtain ⟨-, -, -, ⟨isNone, -⟩ | ⟨digits, isFound, covers⟩⟩ :=
    onGrid_cases interval quarter exponent
  · exact absurd (found.symm.trans isNone) (Option.some_ne_none _)
  · obtain rfl := Option.some.inj (found.symm.trans isFound)
    exact ⟨rfl, covers⟩

/-! ### The interval of a number -/

section

variable {mantissa : ℕ} {exponent : ℤ}

theorem quarter_eq (exponent : ℤ) : (2 : ℚ) ^ (exponent - 2) = 2 ^ exponent / 4 := by
  rw [zpow_sub₀ two_ne_zero]
  norm_num

theorem Interval.around_middle (mantissa : ℕ) (exponent : ℤ) :
    ((Interval.around mantissa exponent).middle * 2 ^ (exponent - 2) : ℚ) =
      mantissa * 2 ^ exponent := by
  rw [quarter_eq, around]
  push_cast
  ring

theorem Interval.around_upper (mantissa : ℕ) (exponent : ℤ) :
    ((Interval.around mantissa exponent).upper * 2 ^ (exponent - 2) : ℚ) =
      mantissa * 2 ^ exponent + 2 ^ exponent / 2 := by
  rw [quarter_eq, around]
  push_cast
  ring

/-- The next number below is half as far away if the given one is a power of two. -/
theorem Interval.around_lower (positive : 0 < mantissa) :
    mantissa = 2 ^ 52 ∧ -1074 < exponent ∧
        ((Interval.around mantissa exponent).lower * 2 ^ (exponent - 2) : ℚ) =
          mantissa * 2 ^ exponent - 2 ^ exponent / 4 ∨
      ¬ (mantissa = 2 ^ 52 ∧ -1074 < exponent) ∧
        ((Interval.around mantissa exponent).lower * 2 ^ (exponent - 2) : ℚ) =
          mantissa * 2 ^ exponent - 2 ^ exponent / 2 := by
  have asWritten : (mantissa = Nat.pow 2 52 && decide (Binary.leastExponent < exponent)) = true ↔
      mantissa = 2 ^ 52 ∧ -1074 < exponent := by
    simp only [Bool.and_eq_true, decide_eq_true_eq]
    exact Iff.rfl
  rw [quarter_eq, around]
  dsimp only
  split
  · rename_i isPower
    obtain ⟨isPower, notLeast⟩ := asWritten.mp isPower
    refine .inl ⟨isPower, notLeast, ?_⟩
    rw [Nat.cast_sub (by omega)]
    push_cast
    ring
  · rename_i notPower
    refine .inr ⟨mt asWritten.mpr notPower, ?_⟩
    rw [Nat.cast_sub (by omega)]
    push_cast
    ring

theorem Interval.Covers.bounds {interval : Interval} {quarter : ℤ} {number : ℚ}
    (covers : interval.Covers quarter number) :
    interval.lower * 2 ^ quarter ≤ number ∧ number ≤ interval.upper * 2 ^ quarter := by
  unfold Covers at covers
  split at covers
  · exact covers
  · exact ⟨covers.1.le, covers.2.le⟩

theorem Interval.covers_of_lt {interval : Interval} {quarter : ℤ} {number : ℚ}
    (above : interval.lower * 2 ^ quarter < number)
    (below : number < interval.upper * 2 ^ quarter) : interval.Covers quarter number := by
  unfold Covers
  split
  · exact ⟨above.le, below.le⟩
  · exact ⟨above, below⟩

/-- What lies in the interval around a number is near to it. -/
theorem Interval.Covers.near {number : ℚ} (positive : 0 < mantissa)
    (covers : (Interval.around mantissa exponent).Covers (exponent - 2) number) :
    Near mantissa exponent number := by
  have unit := unit_pos exponent
  have upper := around_upper mantissa exponent
  obtain ⟨above, below⟩ := covers.bounds
  rw [upper] at below
  have lower := @around_lower mantissa exponent positive
  have least : mantissa * 2 ^ exponent - 2 ^ exponent / 2 ≤
      ((Interval.around mantissa exponent).lower * 2 ^ (exponent - 2) : ℚ) := by
    rcases lower with ⟨-, -, lower⟩ | ⟨-, lower⟩
    · rw [lower]
      linarith
    · rw [lower]
  refine ⟨abs_le.mpr ⟨by linarith, by linarith⟩, fun isTie => ?_, fun isPower notLeast => ?_⟩
  · by_contra odd
    have isOpen : (Interval.around mantissa exponent).closed = false :=
      beq_false_of_ne (mt Nat.even_iff.mpr odd)
    unfold Covers at covers
    rw [isOpen, if_neg Bool.false_ne_true, upper] at covers
    exact absurd isTie (abs_lt.mpr ⟨by linarith, by linarith⟩).ne
  · rcases lower with ⟨-, -, lower⟩ | ⟨notPower, -⟩
    · rwa [lower] at above
    · exact absurd ⟨isPower, notLeast⟩ notPower

theorem Interval.lower_lt_middle (positive : 0 < mantissa) :
    ((Interval.around mantissa exponent).lower * 2 ^ (exponent - 2) : ℚ) <
      mantissa * 2 ^ exponent := by
  have unit := unit_pos exponent
  rcases @around_lower mantissa exponent positive with ⟨-, -, lower⟩ | ⟨-, lower⟩ <;>
    rw [lower] <;> linarith

theorem Interval.middle_lt_upper : (mantissa * 2 ^ exponent : ℚ) <
    (Interval.around mantissa exponent).upper * 2 ^ (exponent - 2) := by
  rw [around_upper]
  linarith [unit_pos exponent]

/-- If no multiple is near enough, then the interval lies between two that are next to each
other. -/
theorem exists_between_of_onGrid_eq_none (positive : 0 < mantissa) {power : ℤ}
    (isNone : onGrid (.around mantissa exponent) (exponent - 2) power = none) :
    ∃ below : ℕ,
      below * 10 ^ power ≤
        ((Interval.around mantissa exponent).lower * 2 ^ (exponent - 2) : ℚ) ∧
      (mantissa * 2 ^ exponent + 2 ^ exponent / 2 : ℚ) ≤ (below + 1 : ℕ) * 10 ^ power := by
  have lower := @Interval.lower_lt_middle mantissa exponent positive
  have upper := @Interval.middle_lt_upper mantissa exponent
  obtain ⟨below, isBelow, isAbove, ⟨-, belowMisses, aboveMisses⟩ | ⟨digits, found, -⟩⟩ :=
    onGrid_cases (.around mantissa exponent) (exponent - 2) power
  · rw [Interval.around_middle] at isBelow isAbove
    refine ⟨below, not_lt.mp fun above => ?_, ?_⟩
    · exact belowMisses (Interval.covers_of_lt above (isBelow.trans_lt upper))
    · rw [← Interval.around_upper]
      exact not_lt.mp fun below =>
        aboveMisses (Interval.covers_of_lt (lower.trans isAbove) below)
  · exact absurd (found.symm.trans isNone) (Option.some_ne_none _)

/-- Multiples of a power of ten with seventeen digits before it are near enough. -/
theorem Canonical.onGrid_ne_none (canonical : Canonical mantissa exponent) {power : ℤ}
    (fine : (10 : ℚ) ^ (power + 16) ≤ mantissa * 2 ^ exponent) :
    onGrid (.around mantissa exponent) (exponent - 2) power ≠ none := by
  intro isNone
  obtain ⟨below, isBelow, isAbove⟩ :=
    exists_between_of_onGrid_eq_none canonical.positive isNone
  have step : (0 : ℚ) < 10 ^ power := by positivity
  have most : (mantissa : ℚ) < 2 ^ 53 := by exact_mod_cast canonical.most
  have scaled := mul_lt_mul_of_pos_right most (unit_pos exponent)
  push_cast at isAbove
  rw [zpow_add₀ (by norm_num)] at fine
  norm_num at fine scaled
  -- The multiples are less than four quarters apart, and less than two if the number is a power of
  -- two, whose interval has three.
  rcases @Interval.around_lower mantissa exponent canonical.positive with
    ⟨isPower, -, lower⟩ | ⟨-, lower⟩
  · rw [lower] at isBelow
    rw [isPower] at fine
    push_cast at fine
    linarith
  · rw [lower] at isBelow
    linarith

/-- A whole number is a multiple of one. -/
theorem Canonical.onGrid_zero_ne_none (canonical : Canonical mantissa exponent) {whole : ℕ}
    (isWhole : (mantissa * 2 ^ exponent : ℚ) = whole) :
    onGrid (.around mantissa exponent) (exponent - 2) 0 ≠ none := by
  intro isNone
  have lower := @Interval.lower_lt_middle mantissa exponent canonical.positive
  obtain ⟨below, isBelow, isAbove⟩ :=
    exists_between_of_onGrid_eq_none canonical.positive isNone
  rw [zpow_zero, mul_one] at isBelow isAbove
  rw [isWhole] at lower isAbove
  have above : below < whole := by exact_mod_cast isBelow.trans_lt lower
  have notAbove : whole < below + 1 := by
    have castNotAbove : (whole : ℚ) < (below + 1 : ℕ) := by linarith [unit_pos exponent]
    exact_mod_cast castNotAbove
  omega

end

/-! ### The leading digit -/

theorem magnitude_le {numerator denominator : ℕ} (positive : 0 < numerator)
    (positive' : 0 < denominator) :
    (10 : ℚ) ^ magnitude numerator denominator ≤ numerator / denominator := by
  have castPositive : (0 : ℚ) < numerator := by exact_mod_cast positive
  have castPositive' : (0 : ℚ) < denominator := by exact_mod_cast positive'
  unfold magnitude digitsOf
  split
  · rename_i large
    have least := ten_pow_length_le (Nat.div_pos large positive')
    rw [← Int.natCast_pred_of_pos Nat.length_toDigits_pos, zpow_natCast]
    calc (10 : ℚ) ^ ((Nat.toDigits 10 (numerator / denominator)).length - 1) ≤
          (numerator / denominator : ℕ) := by exact_mod_cast least
      _ ≤ numerator / denominator := Nat.cast_div_le
  · dsimp only
    split
    · rename_i isPower
      rw [← Int.natCast_pred_of_pos Nat.length_toDigits_pos, zpow_neg, zpow_natCast,
        le_div_iff₀ castPositive', inv_mul_le_iff₀ (by positivity), mul_comm]
      exact_mod_cast isPower.ge
    · have most := lt_ten_pow_length (denominator / numerator)
      rw [Nat.div_lt_iff_lt_mul positive] at most
      rw [zpow_neg, zpow_natCast, le_div_iff₀ castPositive', inv_mul_le_iff₀ (by positivity)]
      exact_mod_cast most.le

theorem magnitude_nonneg {numerator denominator : ℕ} (large : denominator ≤ numerator) :
    0 ≤ magnitude numerator denominator := by
  have length := @Nat.length_toDigits_pos 10 (numerator / denominator)
  unfold magnitude digitsOf
  rw [if_pos large]
  omega

/-! ### Zeros at the end -/

/-- The zeros that are taken from the digits are added to the exponent. -/
theorem exists_dropZeros (limit : ℕ) (numeral : Numeral) :
    ∃ zeros : ℕ, (dropZeros limit numeral).exponent = numeral.exponent + zeros ∧
      (dropZeros limit numeral).digits * 10 ^ zeros = numeral.digits := by
  induction limit generalizing numeral with
  | zero => exact ⟨0, by simp [dropZeros], by simp [dropZeros]⟩
  | succ limit inductionHypothesis =>
    unfold dropZeros
    split
    · rename_i ends
      simp only [Bool.and_eq_true, decide_eq_true_eq, beq_iff_eq] at ends
      obtain ⟨zeros, isExponent, isDigits⟩ :=
        inductionHypothesis ⟨numeral.digits / 10, numeral.exponent + 1⟩
      refine ⟨zeros + 1, ?_, ?_⟩
      · rw [isExponent]
        push_cast
        ring
      · rw [pow_succ, ← mul_assoc, isDigits]
        exact Nat.div_mul_cancel (Nat.dvd_of_mod_eq_zero ends.2)
    · exact ⟨0, by simp, by simp⟩

/-! ### Whole numbers -/

/-- Only a whole number is near to a whole one. -/
theorem Near.isWhole {mantissa whole : ℕ} {exponent : ℤ} (near : Near mantissa exponent whole) :
    isWhole mantissa exponent = true := by
  rw [isWhole_iff]
  by_cases above : 0 ≤ exponent
  · refine ⟨mantissa * Nat.pow 2 exponent.toNat, ?_⟩
    rw [Nat.cast_mul, natCast_pow_toNat 2 above, Nat.cast_ofNat]
  · have unit := unit_pos exponent
    have close := near.close
    have moved := mul_two_pow_toNat whole (le_of_not_ge above)
    rw [zpow_zero, mul_one] at moved
    generalize whole * Nat.pow 2 (0 - exponent).toNat = multiple at moved
    have error : |(multiple : ℚ) * 2 ^ exponent - mantissa * 2 ^ exponent| =
        |((multiple - mantissa : ℤ) : ℚ)| * 2 ^ exponent := by
      rw [← sub_mul, abs_mul, abs_of_pos unit]
      push_cast
      rfl
    rw [← moved, error, ← Int.cast_abs] at close
    have small : ((|(multiple - mantissa : ℤ)| : ℤ) : ℚ) < 1 := by
      refine lt_of_mul_lt_mul_right ?_ unit.le
      linarith
    have none : (multiple - mantissa : ℤ) = 0 := Int.abs_lt_one_iff.mp (by exact_mod_cast small)
    have same : mantissa = multiple := by omega
    exact ⟨whole, by rw [same, moved]⟩

/-! ### The search -/

/-- What is found first in a range is not found before. -/
theorem exists_first {Result : Type} {search : ℕ → Option Result} {limit : ℕ} {result : Result}
    (found : (List.range limit).findSome? search = some result) :
    ∃ count < limit, search count = some result ∧
      ∀ earlier < limit, search earlier ≠ none → count ≤ earlier := by
  obtain ⟨before, count, after, isRange, found, missed⟩ := List.findSome?_eq_some_iff.mp found
  have isCount := List.mem_range.mp (isRange ▸ List.mem_append_right before List.mem_cons_self)
  refine ⟨count, isCount, found, fun earlier inRange hits => ?_⟩
  have ordered := isRange ▸ @List.pairwise_lt_range limit
  have member := isRange ▸ List.mem_range.mpr inRange
  rcases List.mem_append.mp member with isBefore | isAfter
  · exact absurd (missed earlier isBefore) hits
  · rcases List.mem_cons.mp isAfter with rfl | isAfter
    · exact le_rfl
    · exact (List.rel_of_pairwise_cons (List.pairwise_append.mp ordered).2.1 isAfter).le

section

variable {mantissa : ℕ} {exponent : ℤ} (canonical : Canonical mantissa exponent)

include canonical

/-- The leading digit stands for no more than the number. -/
theorem Canonical.magnitude_le :
    (10 : ℚ) ^ magnitude (scaleByTwo mantissa exponent).1 (scaleByTwo mantissa exponent).2 ≤
      mantissa * 2 ^ exponent := by
  have isNumber := scaleByTwo_eq mantissa exponent
  have positive := scaleByTwo_pos mantissa exponent
  have above : 0 < (scaleByTwo mantissa exponent).1 := by
    refine Nat.pos_of_ne_zero fun isZero => ?_
    rw [isZero, Nat.cast_zero, zero_div] at isNumber
    exact mantissa_mul_ne_zero canonical.positive exponent isNumber.symm
  rw [← isNumber]
  exact Decimal.magnitude_le above positive

/-- The leading digit of a whole number is not behind the point. -/
theorem Canonical.magnitude_nonneg (whole : isWhole mantissa exponent = true) :
    0 ≤ magnitude (scaleByTwo mantissa exponent).1 (scaleByTwo mantissa exponent).2 := by
  obtain ⟨number, isNumber⟩ := isWhole_iff.mp whole
  have positive : (0 : ℚ) < (scaleByTwo mantissa exponent).2 := by
    exact_mod_cast scaleByTwo_pos mantissa exponent
  have notZero : number ≠ 0 := by
    rintro rfl
    exact mantissa_mul_ne_zero canonical.positive exponent isNumber
  rw [← scaleByTwo_eq, div_eq_iff positive.ne'] at isNumber
  have product : (scaleByTwo mantissa exponent).1 = number * (scaleByTwo mantissa exponent).2 := by
    exact_mod_cast isNumber
  refine Decimal.magnitude_nonneg ?_
  rw [product]
  exact Nat.le_mul_of_pos_left _ (Nat.pos_of_ne_zero notZero)

/-- The search finds a multiple that is near enough, and before it comes to tenths if the number is
whole. -/
theorem Canonical.exists_found : ∃ (found : Numeral) (zeros : ℕ),
    (shortest mantissa exponent).exponent = found.exponent + zeros ∧
      (shortest mantissa exponent).digits * 10 ^ zeros = found.digits ∧
        Near mantissa exponent (found.digits * 10 ^ found.exponent) ∧
          (isWhole mantissa exponent = true → 0 ≤ found.exponent) := by
  have magnitudeLe := canonical.magnitude_le
  have magnitudeNonneg := canonical.magnitude_nonneg
  unfold shortest
  dsimp only
  generalize magnitude (scaleByTwo mantissa exponent).1 (scaleByTwo mantissa exponent).2 = leading
    at magnitudeLe magnitudeNonneg
  split
  · rename_i numeral found
    obtain ⟨count, inRange, found, least⟩ := exists_first found
    obtain ⟨zeros, isExponent, isDigits⟩ := exists_dropZeros 20 numeral
    obtain ⟨isPower, covers⟩ := onGrid_eq_some found
    refine ⟨numeral, zeros, isExponent, isDigits, ?_, fun whole => ?_⟩
    · rw [isPower]
      exact covers.near canonical.positive
    · have notBehind := magnitudeNonneg whole
      obtain ⟨number, isNumber⟩ := isWhole_iff.mp whole
      rcases le_or_gt leading 16 with short | long
      · have notLater := least leading.toNat (by omega) (by
          rw [Int.toNat_of_nonneg notBehind, sub_self]
          exact canonical.onGrid_zero_ne_none isNumber)
        omega
      · omega
  · rename_i missed
    have isNone := List.findSome?_eq_none_iff.mp missed 16 (by decide)
    exact absurd isNone (canonical.onGrid_ne_none (by simpa using magnitudeLe))

/-- The shortest decimal of a number is near to it. -/
theorem Canonical.near_shortest : Near mantissa exponent
    ((shortest mantissa exponent).digits * 10 ^ (shortest mantissa exponent).exponent) := by
  obtain ⟨found, zeros, isExponent, isDigits, near, -⟩ := canonical.exists_found
  have same : ((shortest mantissa exponent).digits *
      10 ^ (shortest mantissa exponent).exponent : ℚ) =
        found.digits * 10 ^ found.exponent := by
    rw [← isDigits, isExponent, zpow_add₀ (by norm_num), zpow_natCast]
    push_cast
    ring
  rwa [same]

theorem Canonical.shortest_digits_pos : 0 < (shortest mantissa exponent).digits := by
  have least := canonical.near_shortest.two_pow_le canonical
  refine Nat.pos_of_ne_zero fun isZero => ?_
  rw [isZero, Nat.cast_zero, zero_mul] at least
  exact absurd (unit_pos (-1075)) least.not_gt

/-- The shortest decimal of a number is whole if the number is. -/
theorem Canonical.shortest_exponent_nonneg_iff :
    0 ≤ (shortest mantissa exponent).exponent ↔ isWhole mantissa exponent = true := by
  constructor
  · intro above
    have near := canonical.near_shortest
    rw [← Nat.cast_ofNat, ← natCast_pow_toNat 10 above, ← Nat.cast_mul] at near
    exact near.isWhole
  · intro whole
    obtain ⟨found, zeros, isExponent, -, -, notBehind⟩ := canonical.exists_found
    have := notBehind whole
    omega

end

end SlashScript.Decimal
