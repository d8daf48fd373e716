/-
This file follows the rounding of binary64 numbers. A mantissa that is cut short keeps two bits
about what was cut off: whether that is nothing, less than a half, a half or more. Cutting off one
more digit keeps them true, so a mantissa that is cut to 53 digits is rounded to the nearest one.
-/

import SlashScript.Proofs.Rounding.Basic

namespace SlashScript.Decimal

open Float.Model Float.Model.UnpackedFloat

/-! ### What the residual bits say -/

/-- The mantissa is the number without its fraction, and the two bits say of the fraction whether it
is nothing, less than a half, a half or more than a half. -/
def Describes (extended : ExtendedMantissa) (number : ℚ) : Prop :=
  match extended.roundBit, extended.stickyBit with
  | false, false => number = extended.mantissa
  | false, true => extended.mantissa < number ∧ number < extended.mantissa + 1 / 2
  | true, false => number = extended.mantissa + 1 / 2
  | true, true => extended.mantissa + 1 / 2 < number ∧ number < extended.mantissa + 1

theorem describes_exact (mantissa : ℕ) :
    Describes (.ofMantissaAndAccuracy mantissa .exact) mantissa := rfl

theorem describes_fraction (mantissa : ℕ) {numerator denominator : ℕ}
    (proper : numerator < denominator) :
    Describes (.ofMantissaAndAccuracy mantissa (accuracyOfFraction numerator denominator))
      (mantissa + numerator / denominator) := by
  have positive : (0 : ℚ) < denominator := by exact_mod_cast Nat.zero_lt_of_lt proper
  have castProper : (numerator : ℚ) < denominator := by exact_mod_cast proper
  have belowOne : (numerator : ℚ) / denominator < 1 := (div_lt_one positive).mpr castProper
  unfold accuracyOfFraction
  split
  · rename_i isZero
    rw [isZero, Nat.cast_zero, zero_div, add_zero]
    exact describes_exact mantissa
  rename_i notZero
  have castNotZero : (0 : ℚ) < numerator := by exact_mod_cast Nat.pos_of_ne_zero notZero
  have aboveZero : (0 : ℚ) < numerator / denominator := div_pos castNotZero positive
  rcases order : compare (2 * numerator) denominator with _ | _ | _
  · have below : (2 * numerator : ℚ) < denominator := by
      exact_mod_cast Nat.compare_eq_lt.mp order
    have belowHalf : (numerator : ℚ) / denominator < 1 / 2 := by
      rw [div_lt_div_iff₀ positive two_pos]
      linarith
    show (mantissa : ℚ) < _ ∧ _ < (mantissa : ℚ) + 1 / 2
    constructor <;> linarith
  · have same : (2 * numerator : ℚ) = denominator := by
      exact_mod_cast Nat.compare_eq_eq.mp order
    have isHalf : (numerator : ℚ) / denominator = 1 / 2 := by
      rw [div_eq_div_iff positive.ne' two_ne_zero]
      linarith
    rw [isHalf]
    rfl
  · have above : (denominator : ℚ) < 2 * numerator := by
      exact_mod_cast Nat.compare_eq_gt.mp order
    have aboveHalf : (1 : ℚ) / 2 < numerator / denominator := by
      rw [div_lt_div_iff₀ two_pos positive]
      linarith
    show (mantissa : ℚ) + 1 / 2 < _ ∧ _ < (mantissa : ℚ) + 1
    constructor <;> linarith

section

variable {extended : ExtendedMantissa} {number : ℚ} (describes : Describes extended number)

include describes

theorem Describes.bounds : extended.mantissa ≤ number ∧ number < extended.mantissa + 1 := by
  obtain ⟨mantissa, roundBit, stickyBit⟩ := extended
  cases roundBit <;> cases stickyBit <;> simp only [Describes] at describes ⊢ <;>
    constructor <;> linarith

theorem Describes.shiftRightOne : Describes extended.shiftRightOne (number / 2) := by
  obtain ⟨mantissa, roundBit, stickyBit⟩ := extended
  have divided : ((mantissa % 2 : ℕ) : ℚ) + 2 * (mantissa / 2 : ℕ) = mantissa := by
    exact_mod_cast Nat.mod_add_div mantissa 2
  rcases Nat.mod_two_eq_zero_or_one mantissa with isEven | isOdd
  · have round : (mantissa % 2 != 0) = false := by rw [isEven]; rfl
    rw [isEven, Nat.cast_zero] at divided
    cases roundBit <;> cases stickyBit <;>
      simp only [Describes, ExtendedMantissa.shiftRightOne, round, Bool.or_false,
        Bool.or_true] at describes ⊢
    · linarith
    all_goals constructor <;> linarith
  · have round : (mantissa % 2 != 0) = true := by rw [isOdd]; rfl
    rw [isOdd, Nat.cast_one] at divided
    cases roundBit <;> cases stickyBit <;>
      simp only [Describes, ExtendedMantissa.shiftRightOne, round, Bool.or_false,
        Bool.or_true] at describes ⊢
    · linarith
    all_goals constructor <;> linarith

/-- Cutting off digits keeps the residual bits true. -/
theorem Describes.shiftRight (count : ℕ) : Describes (extended >>> count) (number / 2 ^ count) := by
  show Describes (count.repeat ExtendedMantissa.shiftRightOne extended) _
  induction count with
  | zero => simpa [Nat.repeat] using describes
  | succ count inductionHypothesis =>
    rw [Nat.repeat, pow_succ, ← div_div]
    exact inductionHypothesis.shiftRightOne

/-- The mantissa is rounded to the nearest whole number, the even one of two. -/
theorem Describes.rounded : |number - extended.roundedMantissa| ≤ 1 / 2 ∧
    (|number - extended.roundedMantissa| = 1 / 2 → Even extended.roundedMantissa) := by
  obtain ⟨mantissa, roundBit, stickyBit⟩ := extended
  cases roundBit <;> cases stickyBit <;> simp only [Describes] at describes
  · have rounded : ExtendedMantissa.roundedMantissa ⟨mantissa, false, false⟩ = mantissa := rfl
    rw [rounded, describes, sub_self, abs_zero]
    norm_num
  · have rounded : ExtendedMantissa.roundedMantissa ⟨mantissa, false, true⟩ = mantissa := rfl
    rw [rounded, abs_of_pos (by linarith)]
    exact ⟨by linarith, fun isTie => by linarith⟩
  · have rounded : ExtendedMantissa.roundedMantissa ⟨mantissa, true, false⟩ =
        mantissa + mantissa % 2 := rfl
    rw [rounded, describes]
    rcases Nat.mod_two_eq_zero_or_one mantissa with isEven | isOdd
    · rw [isEven, add_zero, add_sub_cancel_left, abs_of_pos (by norm_num)]
      exact ⟨le_rfl, fun _ => Nat.even_iff.mpr isEven⟩
    · have error : (mantissa : ℚ) + 1 / 2 - (mantissa + 1 : ℕ) = -(1 / 2) := by
        push_cast
        ring
      rw [isOdd, error, abs_neg, abs_of_pos (by norm_num)]
      exact ⟨le_rfl, fun _ => (Nat.odd_iff.mpr isOdd).add_one⟩
  · have rounded : ExtendedMantissa.roundedMantissa ⟨mantissa, true, true⟩ = mantissa + 1 := rfl
    rw [rounded, Nat.cast_add, Nat.cast_one, abs_of_neg (by linarith)]
    exact ⟨by linarith, fun isTie => by linarith⟩

end

theorem mantissa_shiftRight (extended : ExtendedMantissa) (count : ℕ) :
    (extended >>> count).mantissa = extended.mantissa / 2 ^ count := by
  show (count.repeat ExtendedMantissa.shiftRightOne extended).mantissa = _
  induction count with
  | zero => simp [Nat.repeat]
  | succ count inductionHypothesis =>
    rw [Nat.repeat, pow_succ, ← Nat.div_div_eq_div_mul, ← inductionHypothesis]
    rfl

theorem mantissa_ofMantissaAndAccuracy (mantissa : ℕ) (accuracy : Accuracy) :
    (ExtendedMantissa.ofMantissaAndAccuracy mantissa accuracy).mantissa = mantissa := by
  rcases accuracy with _ | (_ | _ | _) <;> rfl

theorem roundedMantissa_bounds (extended : ExtendedMantissa) :
    extended.mantissa ≤ extended.roundedMantissa ∧
      extended.roundedMantissa ≤ extended.mantissa + 1 := by
  obtain ⟨mantissa, roundBit, stickyBit⟩ := extended
  cases roundBit <;> cases stickyBit <;>
    simp only [ExtendedMantissa.roundedMantissa, ExtendedMantissa.accuracy,
      Accuracy.roundToNearestEven] <;>
    omega

/-! ### Rounding to 53 digits -/

theorem targetExponent_eq (exponent : ℤ) :
    Format.binary64.targetExponent exponent = max (exponent - 53) (-1074) :=
  rfl

/-- A mantissa that is too long, or begins too low, is cut at the target exponent. -/
theorem shiftToTargetExponent_of_target {mantissa count : ℕ} {exponent : ℤ}
    (target : Format.binary64.targetExponent (totalExponent mantissa exponent) = exponent + count)
    (accuracy : Accuracy) :
    shiftToTargetExponent Format.binary64 mantissa exponent accuracy =
      (ExtendedMantissa.ofMantissaAndAccuracy mantissa accuracy >>> count, exponent + count) := by
  unfold shiftToTargetExponent shiftToExponent
  rw [target]
  dsimp only
  rw [add_sub_cancel_left, Int.toNat_natCast]

/-- A mantissa of at least 53 digits is cut to 53 digits. -/
theorem shiftToTargetExponent_eq {mantissa : ℕ} {exponent : ℤ} (accuracy : Accuracy)
    (large : 2 ^ 52 ≤ mantissa) (inRange : -1074 ≤ exponent + (mantissa.log2 - 52)) :
    shiftToTargetExponent Format.binary64 mantissa exponent accuracy =
      (ExtendedMantissa.ofMantissaAndAccuracy mantissa accuracy >>> (mantissa.log2 - 52),
        exponent + (mantissa.log2 - 52 : ℕ)) := by
  have digits : 52 ≤ mantissa.log2 := (Nat.le_log2 (by omega)).mpr large
  refine shiftToTargetExponent_of_target ?_ accuracy
  rw [targetExponent_eq, totalExponent]
  omega

/-- A mantissa of 53 digits, after a carry 54, is left with 53. -/
theorem exists_carried {mantissa : ℕ} (least : 2 ^ 52 ≤ mantissa) (most : mantissa ≤ 2 ^ 53)
    {exponent : ℤ} (inRange : -1074 ≤ exponent) :
    ∃ carried : ℕ, carried ≤ 1 ∧ 2 ^ 52 ≤ mantissa / 2 ^ carried ∧
      mantissa / 2 ^ carried < 2 ^ 53 ∧ mantissa / 2 ^ carried * 2 ^ carried = mantissa ∧
        ∃ extended : ExtendedMantissa,
          shiftToTargetExponent Format.binary64 mantissa exponent .exact =
            (extended, exponent + carried) ∧ extended.mantissa = mantissa / 2 ^ carried := by
  have digits : 52 ≤ mantissa.log2 := (Nat.le_log2 (by omega)).mpr least
  have inRangeAll : -1074 ≤ exponent + (mantissa.log2 - 52) := by omega
  have shifted := shiftToTargetExponent_eq .exact least inRangeAll
  have cut := mantissa_shiftRight (.ofMantissaAndAccuracy mantissa .exact) (mantissa.log2 - 52)
  rw [mantissa_ofMantissaAndAccuracy] at cut
  rcases most.lt_or_eq with small | rfl
  · have log : mantissa.log2 - 52 = 0 := by
      have := (Nat.log2_lt (by omega)).mpr small
      omega
    rw [log] at shifted cut
    exact ⟨0, by omega, by omega, by omega, by omega, _, shifted, cut⟩
  · have log : (2 ^ 53 : ℕ).log2 - 52 = 1 := by rw [Nat.log2_two_pow]
    rw [log] at shifted cut
    exact ⟨1, le_rfl, by norm_num, by norm_num, by norm_num, _, shifted, cut⟩

/-- A mantissa of 53 digits is rounded to the nearest unit. -/
theorem roundsTo_of_describes {extended : ExtendedMantissa} {number : ℚ}
    (describes : Describes extended number) (least : 2 ^ 52 ≤ extended.mantissa)
    (most : extended.mantissa < 2 ^ 53) (exponent : ℤ) :
    RoundsTo (number * 2 ^ exponent) (extended.roundedMantissa * 2 ^ exponent) := by
  have unit := unit_pos exponent
  obtain ⟨below, above⟩ := describes.bounds
  obtain ⟨nearest, even⟩ := describes.rounded
  have castLeast : (2 ^ 52 : ℚ) ≤ extended.mantissa := by exact_mod_cast least
  have castMost : (extended.mantissa : ℚ) + 1 ≤ 2 ^ 53 := by exact_mod_cast most
  have absolute : |number * 2 ^ exponent| = number * 2 ^ exponent :=
    abs_of_nonneg (mul_nonneg (by linarith) unit.le)
  have error : |number * 2 ^ exponent - extended.roundedMantissa * 2 ^ exponent| =
      |number - extended.roundedMantissa| * 2 ^ exponent := by
    rw [← sub_mul, abs_mul, abs_of_pos unit]
  refine .inr ⟨extended.roundedMantissa, exponent, ⟨?_, ?_, by push_cast; rfl, ?_, fun isTie => ?_⟩⟩
  · rw [absolute]
    exact mul_le_mul_of_nonneg_right (by linarith) unit.le
  · rw [absolute]
    exact mul_lt_mul_of_pos_right (by linarith) unit
  · rw [error]
    linarith [mul_le_mul_of_nonneg_right nearest unit.le]
  · rw [error] at isTie
    have isHalf : |number - extended.roundedMantissa| = 1 / 2 := by
      refine mul_right_cancel₀ unit.ne' ?_
      rw [isTie]
      ring
    exact_mod_cast even isHalf

/-- A mantissa with at least 53 digits is cut to just 53. -/
theorem mantissa_cut_bounds {extended : ExtendedMantissa} (large : 2 ^ 52 ≤ extended.mantissa)
    {count : ℕ} (isCount : extended.mantissa.log2 = 52 + count) :
    2 ^ 52 ≤ (extended >>> count).mantissa ∧ (extended >>> count).mantissa < 2 ^ 53 := by
  rw [mantissa_shiftRight]
  constructor
  · rw [Nat.le_div_iff_mul_le (by positivity), ← pow_add, ← isCount]
    exact Nat.log2_self_le (by omega)
  · rw [Nat.div_lt_iff_lt_mul (by positivity), ← pow_add,
      (by omega : 53 + count = extended.mantissa.log2 + 1)]
    exact Nat.lt_log2_self

theorem div_mul_two_pow_add (number : ℚ) (count : ℕ) (exponent : ℤ) :
    number / 2 ^ count * 2 ^ (exponent + count) = number * 2 ^ exponent := by
  rw [zpow_add₀ two_ne_zero, zpow_natCast, mul_comm ((2 : ℚ) ^ exponent), ← mul_assoc,
    div_mul_cancel₀ _ (by positivity)]

/-- A number that is described with at least 53 digits is rounded to 53. -/
theorem roundWithAccuracy_rounds (sign : Sign) {mantissa : ℕ} {exponent : ℤ}
    {accuracy : Accuracy} {number : ℚ}
    (describes : Describes (.ofMantissaAndAccuracy mantissa accuracy) number)
    (large : 2 ^ 52 ≤ mantissa) (inRange : -1074 ≤ exponent + (mantissa.log2 - 52)) :
    ∃ (result : ℕ) (unit : ℤ) (positive : 0 < result),
      roundWithAccuracy Format.binary64 sign mantissa exponent accuracy =
          .finite sign result unit positive ∧
        2 ^ 52 ≤ result ∧ result < 2 ^ 53 ∧
          exponent + (mantissa.log2 - 52) ≤ unit ∧ unit ≤ exponent + (mantissa.log2 - 51) ∧
            RoundsTo (number * 2 ^ exponent) (result * 2 ^ unit) := by
  have digits : 52 ≤ mantissa.log2 := (Nat.le_log2 (by omega)).mpr large
  obtain ⟨count, isCount⟩ := Nat.exists_eq_add_of_le digits
  have shifted := shiftToTargetExponent_eq accuracy large inRange
  rw [isCount, Nat.add_sub_cancel_left] at shifted
  have isMantissa := mantissa_ofMantissaAndAccuracy mantissa accuracy
  obtain ⟨least, most⟩ := mantissa_cut_bounds (isMantissa.symm ▸ large)
    (isMantissa.symm ▸ isCount)
  have cutDescribes := describes.shiftRight count
  generalize ExtendedMantissa.ofMantissaAndAccuracy mantissa accuracy >>> count = cut
    at shifted least most cutDescribes
  obtain ⟨below, above⟩ := roundedMantissa_bounds cut
  have inRangeCut : -1074 ≤ exponent + count := by omega
  obtain ⟨carried, atMostOne, leastResult, mostResult, exactCarry, extended, shiftedAgain,
    extendedMantissa⟩ := exists_carried (least.trans below) (by omega) inRangeCut
  have positive : 0 < cut.roundedMantissa / 2 ^ carried := by omega
  refine ⟨cut.roundedMantissa / 2 ^ carried, exponent + count + carried, positive, ?_, leastResult,
    mostResult, by omega, by omega, ?_⟩
  · unfold roundWithAccuracy
    rw [shifted]
    dsimp only
    rw [shiftedAgain]
    dsimp only
    rw [dif_neg (by omega)]
    congr 1
  · have isResult : ((cut.roundedMantissa / 2 ^ carried : ℕ) : ℚ) =
        cut.roundedMantissa / 2 ^ carried := by
      rw [eq_div_iff (by positivity)]
      exact_mod_cast exactCarry
    rw [isResult, div_mul_two_pow_add, ← div_mul_two_pow_add number count]
    exact roundsTo_of_describes cutDescribes least most _

end SlashScript.Decimal
