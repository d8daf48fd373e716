/-
This file says from which numbers a decimal is read back as a given binary64 number: from those that
are not farther from it than half the way to the next one. Below a power of two the next one is only
half as far away. Reading divides or multiplies whole numbers, cuts the result to 53 digits, or to
the least exponent, and rounds what is left; wherever the number lies in this interval, the parts
that come out are those of the given one.
-/

import SlashScript.Proofs.Rounding.Operations

namespace SlashScript.Decimal

open Float.Model Float.Model.UnpackedFloat

/-! ### The interval around a number -/

/-- The number is rounded to `mantissa * 2 ^ exponent`. -/
structure Near (mantissa : ℕ) (exponent : ℤ) (number : ℚ) : Prop where
  close : |number - mantissa * 2 ^ exponent| ≤ 2 ^ exponent / 2
  even : |number - mantissa * 2 ^ exponent| = 2 ^ exponent / 2 → Even mantissa
  /-- The number below a power of two is closer to it. -/
  power : mantissa = 2 ^ 52 → -1074 < exponent →
    mantissa * 2 ^ exponent - 2 ^ exponent / 4 ≤ number

theorem near_self (mantissa : ℕ) (exponent : ℤ) :
    Near mantissa exponent (mantissa * 2 ^ exponent) := by
  have unit := unit_pos exponent
  refine ⟨?_, fun isTie => ?_, fun _ _ => by linarith⟩
  · rw [sub_self, abs_zero]
    linarith
  · rw [sub_self, abs_zero] at isTie
    linarith

section

variable {mantissa : ℕ} {exponent : ℤ} {number : ℚ} (canonical : Canonical mantissa exponent)
  (near : Near mantissa exponent number)

include canonical near

theorem Near.lt_two_pow : number < 2 ^ (53 + exponent) := by
  have unit := unit_pos exponent
  have most : (mantissa : ℚ) + 1 ≤ 2 ^ 53 := by exact_mod_cast canonical.most
  have close := (abs_le.mp near.close).2
  rw [zpow_add₀ two_ne_zero]
  have scaled := mul_le_mul_of_nonneg_right most unit.le
  norm_num at scaled ⊢
  linarith

theorem Near.two_pow_le : 2 ^ (-1075 : ℤ) ≤ number := by
  have unit := unit_pos exponent
  have least : (1 : ℚ) ≤ mantissa := by exact_mod_cast canonical.positive
  have close := (abs_le.mp near.close).1
  have leastUnit : (2 : ℚ) ^ (-1074 : ℤ) ≤ 2 ^ exponent :=
    zpow_le_zpow_right₀ one_le_two canonical.low
  have half : (2 : ℚ) ^ (-1075 : ℤ) = 2 ^ (-1074 : ℤ) / 2 := by
    rw [(by norm_num : (-1075 : ℤ) = -1074 - 1), zpow_sub₀ two_ne_zero, zpow_one]
  have scaled := mul_le_mul_of_nonneg_right least unit.le
  rw [half]
  linarith

end

/-- Cut to 53 digits or to the least exponent, the number begins where the given one does, or one
place lower if that is a power of two. -/
theorem Near.exists_carry {mantissa : ℕ} {exponent unit : ℤ} {number : ℚ}
    (canonical : Canonical mantissa exponent) (near : Near mantissa exponent (number * 2 ^ unit))
    (most : number < 2 ^ 53) (full : 2 ^ 52 ≤ number ∨ unit = -1074) (low : -1074 ≤ unit) :
    ∃ carry : ℕ, unit = exponent - carry ∧
      (carry = 0 ∨ carry = 1 ∧ mantissa = 2 ^ 52 ∧ -1074 < exponent) ∧
        |number - (mantissa * 2 ^ carry : ℕ)| ≤ 1 / 2 ∧
          (|number - (mantissa * 2 ^ carry : ℕ)| = 1 / 2 → Even (mantissa * 2 ^ carry)) := by
  have unitPositive := unit_pos unit
  have ownPositive := unit_pos exponent
  have notAbove : unit ≤ exponent := by
    rcases full with least | rfl
    · have bound : (2 : ℚ) ^ (52 + unit) < 2 ^ (53 + exponent) := by
        refine lt_of_le_of_lt ?_ (near.lt_two_pow canonical)
        rw [zpow_add₀ two_ne_zero]
        exact mul_le_mul_of_nonneg_right (by exact_mod_cast least) unitPositive.le
      have := (zpow_lt_zpow_iff_right₀ one_lt_two).mp bound
      omega
    · exact canonical.low
  rcases notAbove.eq_or_lt with rfl | below
  · have error : |number * 2 ^ unit - mantissa * 2 ^ unit| = |number - mantissa| * 2 ^ unit := by
      rw [← sub_mul, abs_mul, abs_of_pos unitPositive]
    have close := near.close
    have even := near.even
    rw [error, div_eq_inv_mul] at close even
    refine ⟨0, by simp, .inl rfl, ?_⟩
    rw [pow_zero, mul_one]
    refine ⟨?_, fun isTie => even ?_⟩
    · linarith [le_of_mul_le_mul_right close unitPositive]
    · rw [isTie, one_div]
  · have notLeast : -1074 < exponent := by omega
    have least : 2 ^ 52 ≤ mantissa := canonical.full.resolve_right notLeast.ne'
    have scaled := mul_le_mul_of_nonneg_right (Nat.cast_le (α := ℚ).mpr least) ownPositive.le
    have close := (abs_le.mp near.close).1
    have numberBelow := mul_lt_mul_of_pos_right most unitPositive
    push_cast at scaled
    have isNext : unit = exponent - 1 := by
      have bound : (2 : ℚ) ^ (51 + exponent) < 2 ^ (53 + unit) := by
        rw [zpow_add₀ two_ne_zero, zpow_add₀ two_ne_zero]
        norm_num at scaled numberBelow ⊢
        linarith
      have := (zpow_lt_zpow_iff_right₀ one_lt_two).mp bound
      omega
    subst isNext
    have doubled : (2 : ℚ) ^ exponent = 2 * 2 ^ (exponent - 1) := by
      rw [← zpow_one_add₀ two_ne_zero, add_sub_cancel]
    have isPower : mantissa = 2 ^ 52 := by
      by_contra notPower
      have above : (2 ^ 52 + 1 : ℕ) ≤ mantissa := by omega
      have scaled := mul_le_mul_of_nonneg_right (Nat.cast_le (α := ℚ).mpr above) ownPositive.le
      push_cast at scaled
      norm_num at scaled numberBelow
      linarith
    have close := near.power isPower notLeast
    rw [doubled, isPower] at close
    push_cast at close
    have bound : (2 ^ 53 - 1 / 2 : ℚ) ≤ number := by
      refine le_of_mul_le_mul_right ?_ unitPositive
      linarith
    refine ⟨1, by simp, .inr ⟨rfl, isPower, notLeast⟩, ?_, fun _ => ?_⟩
    · rw [isPower, abs_le]
      push_cast
      constructor <;> linarith
    · rw [isPower]
      decide

/-! ### Rounding -/

/-- Two whole numbers cannot both be nearest to a number if only even ones may be half away. -/
theorem eq_of_nearest {number : ℚ} {whole whole' : ℕ} (close : |number - whole| ≤ 1 / 2)
    (even : |number - whole| = 1 / 2 → Even whole) (close' : |number - whole'| ≤ 1 / 2)
    (even' : |number - whole'| = 1 / 2 → Even whole') : whole = whole' := by
  by_contra different
  wlog less : whole < whole' generalizing whole whole'
  · exact this close' even' close even (Ne.symm different) (by omega)
  obtain ⟨_, above⟩ := abs_le.mp close
  obtain ⟨below, _⟩ := abs_le.mp close'
  have castLess : (whole + 1 : ℚ) ≤ whole' := by exact_mod_cast less
  have isTie : number = whole + 1 / 2 := by linarith
  have isNext : whole' = whole + 1 := by
    have castNext : (whole' : ℚ) ≤ whole + 1 := by linarith
    have : whole' ≤ whole + 1 := by exact_mod_cast castNext
    omega
  subst isNext
  push_cast at even'
  have isEven := even (by rw [isTie, add_sub_cancel_left, abs_of_pos one_half_pos])
  have isEven' := even' (by rw [isTie]; norm_num)
  exact Nat.even_add_one.mp isEven' isEven

theorem Canonical.targetExponent_eq {mantissa : ℕ} {exponent : ℤ}
    (canonical : Canonical mantissa exponent) :
    Format.binary64.targetExponent (totalExponent mantissa exponent) = exponent := by
  obtain ⟨positive, most, low, -, full⟩ := canonical
  have log := (Nat.log2_lt positive.ne').mpr most
  rw [Decimal.targetExponent_eq, totalExponent]
  rcases full with least | isLeast
  · rw [log2_eq least most]
    omega
  · omega

/-- A mantissa that was rounded up to the next power of two is one digit too long. -/
theorem Canonical.shift_carry {mantissa carry : ℕ} {exponent : ℤ}
    (canonical : Canonical mantissa exponent)
    (few : carry = 0 ∨ carry = 1 ∧ mantissa = 2 ^ 52 ∧ -1074 < exponent) :
    ∃ extended : ExtendedMantissa,
      shiftToTargetExponent Format.binary64 (mantissa * 2 ^ carry) (exponent - carry) .exact =
        (extended, exponent) ∧ extended.mantissa = mantissa := by
  have target : Format.binary64.targetExponent
      (totalExponent (mantissa * 2 ^ carry) (exponent - carry)) = exponent - carry + carry := by
    rcases few with rfl | ⟨rfl, rfl, notLeast⟩
    · simpa using canonical.targetExponent_eq
    · have log : (2 ^ 52 * 2 ^ 1 : ℕ).log2 = 53 := by
        rw [← pow_add, Nat.log2_two_pow]
      rw [Decimal.targetExponent_eq, totalExponent, log]
      omega
  have shifted := shiftToTargetExponent_of_target target .exact
  rw [sub_add_cancel] at shifted
  refine ⟨_, shifted, ?_⟩
  rw [mantissa_shiftRight, mantissa_ofMantissaAndAccuracy]
  exact Nat.mul_div_cancel _ (by positivity)

/-- Where a described number is cut. -/
theorem exists_cut {mantissa : ℕ} {exponent : ℤ} {accuracy : Accuracy} {number : ℚ}
    (describes : Describes (.ofMantissaAndAccuracy mantissa accuracy) number)
    (enough : 2 ^ 52 ≤ mantissa ∨ exponent ≤ -1074) :
    ∃ (cut : ExtendedMantissa) (unit : ℤ) (left : ℚ),
      shiftToTargetExponent Format.binary64 mantissa exponent accuracy = (cut, unit) ∧
        Describes cut left ∧ left * 2 ^ unit = number * 2 ^ exponent ∧ left < 2 ^ 53 ∧
          (2 ^ 52 ≤ left ∨ unit = -1074) ∧ -1074 ≤ unit := by
  have digits := fun large => (Nat.le_log2 (by omega)).mpr (large : 2 ^ 52 ≤ mantissa)
  obtain ⟨count, isCount⟩ : ∃ count : ℕ,
      max (mantissa.log2 + 1 + exponent - 53) (-1074) = exponent + count := by
    refine ⟨(max (mantissa.log2 + 1 + exponent - 53) (-1074) - exponent).toNat, ?_⟩
    rcases enough with large | low
    · have := digits large
      omega
    · omega
  have target : Format.binary64.targetExponent (totalExponent mantissa exponent) =
      exponent + count := by
    rw [targetExponent_eq, totalExponent, isCount]
  have cutDescribes := describes.shiftRight count
  have isMantissa := mantissa_shiftRight (.ofMantissaAndAccuracy mantissa accuracy) count
  rw [mantissa_ofMantissaAndAccuracy] at isMantissa
  obtain ⟨below, above⟩ := cutDescribes.bounds
  refine ⟨_, _, _, shiftToTargetExponent_of_target target accuracy, cutDescribes,
    div_mul_two_pow_add number count exponent, ?_, ?_, by omega⟩
  · have most : mantissa / 2 ^ count < 2 ^ 53 := by
      rw [Nat.div_lt_iff_lt_mul (by positivity), ← pow_add]
      exact Nat.lt_log2_self.trans_le (Nat.pow_le_pow_right two_pos (by omega))
    rw [← isMantissa] at most
    exact above.trans_le (by exact_mod_cast most)
  · by_cases isLeast : exponent + count = -1074
    · exact .inr isLeast
    · have least : 2 ^ 52 ≤ mantissa / 2 ^ count := by
        rw [Nat.le_div_iff_mul_le (by positivity), ← pow_add]
        have nonzero : mantissa ≠ 0 := by
          rintro rfl
          rw [Nat.log2_zero] at isCount
          omega
        exact (Nat.pow_le_pow_right two_pos (by omega)).trans (Nat.log2_self_le nonzero)
      rw [← isMantissa] at least
      exact .inl (le_trans (by exact_mod_cast least) below)

/-- What is described with enough digits is rounded to the given number, if it is near to it. -/
theorem Near.roundWithAccuracy {mantissa mantissa' : ℕ} {exponent exponent' : ℤ} {number : ℚ}
    {accuracy : Accuracy} (canonical : Canonical mantissa exponent)
    (near : Near mantissa exponent (number * 2 ^ exponent'))
    (describes : Describes (.ofMantissaAndAccuracy mantissa' accuracy) number)
    (enough : 2 ^ 52 ≤ mantissa' ∨ exponent' ≤ -1074) (sign : Sign) :
    UnpackedFloat.roundWithAccuracy Format.binary64 sign mantissa' exponent' accuracy =
      .finite sign mantissa exponent canonical.positive := by
  obtain ⟨cut, unit, left, shifted, cutDescribes, same, most, full, low⟩ :=
    exists_cut describes enough
  rw [← same] at near
  obtain ⟨carry, rfl, few, close, even⟩ := near.exists_carry canonical most full low
  obtain ⟨extended, shiftedAgain, rfl⟩ := canonical.shift_carry few
  have isRounded := eq_of_nearest cutDescribes.rounded.1 cutDescribes.rounded.2 close even
  unfold UnpackedFloat.roundWithAccuracy
  rw [shifted]
  dsimp only
  rw [isRounded, shiftedAgain]
  exact dif_neg canonical.positive.ne'

/-! ### Products and quotients -/

section

variable {mantissa first second : ℕ} {exponent firstExponent secondExponent : ℤ}

/-- A product with enough digits is rounded to the given number, if it is near to it. -/
theorem Near.mul (canonical : Canonical mantissa exponent) (positive : 0 < first)
    (positive' : 0 < second) (enough : 2 ^ 52 ≤ first * second)
    (near : Near mantissa exponent (first * 2 ^ firstExponent * (second * 2 ^ secondExponent))) :
    UnpackedFloat.mul Format.binary64 (.finite .positive first firstExponent positive)
        (.finite .positive second secondExponent positive') =
      .finite .positive mantissa exponent canonical.positive := by
  have product : (first * 2 ^ firstExponent * (second * 2 ^ secondExponent) : ℚ) =
      (first * second : ℕ) * 2 ^ (firstExponent + secondExponent) := by
    rw [zpow_add₀ two_ne_zero]
    push_cast
    ring
  rw [product] at near
  exact near.roundWithAccuracy canonical (describes_exact _) (.inl enough) .positive

/-- A quotient is taken to 53 digits or to the least exponent. -/
theorem exists_divCore (positive : 0 < first) (positive' : 0 < second) :
    ∃ (target : ℤ) (shift : ℕ), firstExponent - secondExponent = target + shift ∧
      (2 ^ 52 ≤ first * 2 ^ shift / second ∨ target ≤ -1074) ∧
        divCore Format.binary64 first firstExponent second secondExponent =
          (first * 2 ^ shift / second, target,
            accuracyOfFraction (first * 2 ^ shift % second) second) := by
  obtain ⟨target, isTarget⟩ : ∃ target, target = min (firstExponent - secondExponent)
      (Format.binary64.targetExponent
        (totalExponent first firstExponent - totalExponent second secondExponent)) := ⟨_, rfl⟩
  obtain ⟨shift, isShift⟩ : ∃ shift : ℕ, firstExponent - secondExponent = target + shift :=
    ⟨(firstExponent - secondExponent - target).toNat, by omega⟩
  refine ⟨target, shift, isShift, ?_, ?_⟩
  · rw [targetExponent_eq, totalExponent, totalExponent] at isTarget
    rcases (by omega : 52 + (second.log2 + 1) ≤ first.log2 + shift ∨ target ≤ -1074) with
      long | low
    · refine .inl ?_
      have above : second < 2 ^ (second.log2 + 1) := Nat.lt_log2_self
      have below : 2 ^ first.log2 ≤ first := Nat.log2_self_le positive.ne'
      rw [Nat.le_div_iff_mul_le positive']
      calc 2 ^ 52 * second ≤ 2 ^ 52 * 2 ^ (second.log2 + 1) := Nat.mul_le_mul_left _ above.le
        _ = 2 ^ (52 + (second.log2 + 1)) := (pow_add ..).symm
        _ ≤ 2 ^ (first.log2 + shift) := Nat.pow_le_pow_right two_pos long
        _ = 2 ^ first.log2 * 2 ^ shift := pow_add ..
        _ ≤ first * 2 ^ shift := Nat.mul_le_mul_right _ below
    · exact .inr low
  · unfold divCore
    rw [← isTarget, isShift]
    dsimp only
    rw [add_sub_cancel_left, Int.toNat_natCast, Nat.shiftLeft_eq]

/-- A quotient is rounded to the given number, if it is near to it. -/
theorem Near.div (canonical : Canonical mantissa exponent) (positive : 0 < first)
    (positive' : 0 < second)
    (near : Near mantissa exponent (first * 2 ^ firstExponent / (second * 2 ^ secondExponent))) :
    UnpackedFloat.div Format.binary64 (.finite .positive first firstExponent positive)
        (.finite .positive second secondExponent positive') =
      .finite .positive mantissa exponent canonical.positive := by
  obtain ⟨target, shift, isShift, enough, divided⟩ :=
    @exists_divCore first second firstExponent secondExponent positive positive'
  have describes := describes_fraction (first * 2 ^ shift / second)
    (Nat.mod_lt (first * 2 ^ shift) positive')
  have isTarget : target = firstExponent - secondExponent - shift := by omega
  rw [div_eq_whole_add first positive' _ _ shift, ← isTarget] at near
  unfold UnpackedFloat.div
  dsimp only
  rw [divided]
  exact near.roundWithAccuracy canonical describes enough .positive

end

end SlashScript.Decimal
