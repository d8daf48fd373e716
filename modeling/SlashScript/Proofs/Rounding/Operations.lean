/-
This file says what the operations on binary64 numbers come to. A product or quotient that is
neither too large nor too small is rounded, and nothing else is lost. A natural number becomes the
float next to it.
-/

import SlashScript.Proofs.Rounding.Canonical

namespace SlashScript.Decimal

open Float.Model Float.Model.UnpackedFloat

/-- The float stands for this number. -/
def Holds (number : Float) (value : ℚ) : Prop :=
  Stands number.toModel.unpack value

theorem holds_of_stands {unpacked : UnpackedFloat} {value : ℚ} (stands : Stands unpacked value) :
    Holds (.ofModel (.pack unpacked)) value := by
  show Stands (Float.Model.pack unpacked).unpack value
  rwa [stands.unpack_pack]

/-! ### Negation and zero -/

theorem Stands.neg {unpacked : UnpackedFloat} {value : ℚ} (stands : Stands unpacked value) :
    Stands unpacked.neg (-value) := by
  cases stands with
  | zero sign =>
    rw [neg_zero]
    exact .zero (-sign)
  | @finite sign mantissa exponent positive least most low high =>
    have opposite : -signed sign (mantissa * 2 ^ exponent) =
        signed (-sign) (mantissa * 2 ^ exponent) := by
      cases sign
      · exact neg_neg _
      · rfl
    rw [opposite]
    exact .finite (-sign) positive least most low high

theorem Holds.neg {number : Float} {value : ℚ} (holds : Holds number value) :
    Holds (-number) (-value) :=
  holds_of_stands (Stands.neg holds)

theorem signed_eq_zero_iff {sign : Sign} {number : ℚ} : signed sign number = 0 ↔ number = 0 := by
  cases sign
  · exact neg_eq_zero
  · exact Iff.rfl

theorem mantissa_mul_ne_zero {mantissa : ℕ} (positive : 0 < mantissa) (exponent : ℤ) :
    (mantissa * 2 ^ exponent : ℚ) ≠ 0 :=
  mul_ne_zero (by exact_mod_cast positive.ne') (unit_pos exponent).ne'

/-- The test for zero finds the floats that stand for zero. -/
theorem Holds.beq_zero_iff {number : Float} {value : ℚ} (holds : Holds number value) :
    (number == 0.0) = true ↔ value = 0 := by
  show (number.toModel.unpack.compare (.zero .positive) == some .eq) = true ↔ value = 0
  have stands : Stands number.toModel.unpack value := holds
  generalize number.toModel.unpack = unpacked at stands
  cases stands with
  | zero sign => exact iff_of_true rfl rfl
  | @finite sign mantissa exponent positive =>
    refine iff_of_false ?_ (mt signed_eq_zero_iff.mp (mantissa_mul_ne_zero positive exponent))
    cases sign <;> exact Bool.false_ne_true

/-! ### Results that are neither too large nor too small -/

/-- The number is zero, or it is neither too small nor too large to be rounded to 53 digits. -/
def Moderate (value : ℚ) : Prop :=
  value = 0 ∨ 2 ^ (-1000 : ℤ) ≤ |value| ∧ |value| ≤ 2 ^ (1000 : ℤ)

theorem moderate_signed_iff {sign : Sign} {number : ℚ} :
    Moderate (signed sign number) ↔ Moderate number := by
  rw [Moderate, Moderate, abs_signed, signed_eq_zero_iff]

/-- How far the digits of a number lie from its point. -/
theorem Moderate.log2_bounds {number : ℚ} {mantissa : ℕ} {exponent : ℤ}
    (moderate : Moderate (number * 2 ^ exponent)) (positive : 0 < mantissa)
    (least : mantissa ≤ number) (most : number < mantissa + 1) :
    -1000 ≤ exponent + mantissa.log2 + 1 ∧ exponent + mantissa.log2 ≤ 1000 := by
  have unit := unit_pos exponent
  have castPositive : (0 : ℚ) < mantissa := by exact_mod_cast positive
  have numberPositive : 0 < number := castPositive.trans_le least
  have castLeast : (2 : ℚ) ^ mantissa.log2 ≤ mantissa := by
    exact_mod_cast Nat.log2_self_le positive.ne'
  have castMost : (mantissa + 1 : ℚ) ≤ 2 ^ (mantissa.log2 + 1) := by
    exact_mod_cast Nat.lt_log2_self
  rcases moderate with isZero | ⟨above, below⟩
  · exact absurd isZero (mul_pos numberPositive unit).ne'
  rw [abs_of_pos (mul_pos numberPositive unit)] at above below
  constructor
  · refine (zpow_le_zpow_iff_right₀ (one_lt_two (α := ℚ))).mp (above.trans ?_)
    rw [add_assoc, add_comm exponent, zpow_add₀ two_ne_zero]
    exact mul_le_mul_of_nonneg_right (by exact_mod_cast most.le.trans castMost) unit.le
  · refine (zpow_le_zpow_iff_right₀ (one_lt_two (α := ℚ))).mp (le_trans ?_ below)
    rw [add_comm exponent, zpow_add₀ two_ne_zero]
    exact mul_le_mul_of_nonneg_right (by exact_mod_cast castLeast.trans least) unit.le

/-- A number that is described with at least 53 digits becomes the float next to it. -/
theorem exists_stands (sign : Sign) {mantissa : ℕ} {exponent : ℤ} {accuracy : Accuracy}
    {number : ℚ} (describes : Describes (.ofMantissaAndAccuracy mantissa accuracy) number)
    (large : 2 ^ 52 ≤ mantissa) (moderate : Moderate (number * 2 ^ exponent)) :
    ∃ rounded, RoundsTo (signed sign (number * 2 ^ exponent)) rounded ∧
      Stands (roundWithAccuracy Format.binary64 sign mantissa exponent accuracy) rounded := by
  obtain ⟨least, most⟩ := describes.bounds
  rw [mantissa_ofMantissaAndAccuracy] at least most
  have bounds := moderate.log2_bounds (by omega) least most
  have inRange : -1074 ≤ exponent + (mantissa.log2 - 52) := by omega
  obtain ⟨result, unit, positive, isResult, least, most, unitLow, unitHigh, rounds⟩ :=
    roundWithAccuracy_rounds sign describes large inRange
  refine ⟨signed sign (result * 2 ^ unit), rounds.signed sign, ?_⟩
  rw [isResult]
  exact .finite sign positive least most (by omega) (by omega)

/-! ### Products -/

theorem Stands.mul {unpacked unpacked' : UnpackedFloat} {value value' : ℚ}
    (stands : Stands unpacked value) (stands' : Stands unpacked' value')
    (moderate : Moderate (value * value')) :
    ∃ rounded, RoundsTo (value * value') rounded ∧
      Stands (UnpackedFloat.mul Format.binary64 unpacked unpacked') rounded := by
  cases stands with
  | zero sign =>
    refine ⟨0, .inl ⟨zero_mul _, rfl⟩, ?_⟩
    cases stands' with
    | zero sign' => exact .zero (sign * sign')
    | finite sign' => exact .zero (sign * sign')
  | @finite sign mantissa exponent positive least most =>
  cases stands' with
  | zero sign' => exact ⟨0, .inl ⟨mul_zero _, rfl⟩, .zero (sign * sign')⟩
  | @finite sign' mantissa' exponent' positive' least' most' =>
  have product : signed sign (mantissa * 2 ^ exponent) * signed sign' (mantissa' * 2 ^ exponent') =
      signed (sign * sign') ((mantissa * mantissa' : ℕ) * 2 ^ (exponent + exponent')) := by
    rw [signed_mul, zpow_add₀ two_ne_zero]
    push_cast
    congr 1
    ring
  have large : 2 ^ 52 * 1 ≤ mantissa * mantissa' := Nat.mul_le_mul least (by omega)
  rw [product] at moderate ⊢
  exact exists_stands (sign * sign') (describes_exact (mantissa * mantissa')) (by omega)
    (moderate_signed_iff.mp moderate)

theorem Holds.mul {number number' : Float} {value value' : ℚ} (holds : Holds number value)
    (holds' : Holds number' value') (moderate : Moderate (value * value')) :
    ∃ rounded, RoundsTo (value * value') rounded ∧ Holds (number * number') rounded := by
  obtain ⟨rounded, rounds, stands⟩ := Stands.mul holds holds' moderate
  exact ⟨rounded, rounds, holds_of_stands stands⟩

/-! ### Quotients -/

/-- The quotient of two mantissas is taken to at least 53 digits. -/
theorem divCore_eq {mantissa mantissa' : ℕ} {exponent exponent' : ℤ} (least : 2 ^ 52 ≤ mantissa)
    (most : mantissa < 2 ^ 53) (least' : 2 ^ 52 ≤ mantissa') (most' : mantissa' < 2 ^ 53)
    (low : -1021 ≤ exponent - exponent') :
    divCore Format.binary64 mantissa exponent mantissa' exponent' =
      (mantissa * 2 ^ 53 / mantissa', exponent - exponent' - 53,
        accuracyOfFraction (mantissa * 2 ^ 53 % mantissa') mantissa') := by
  have target : min (exponent - exponent') (Format.binary64.targetExponent
      (totalExponent mantissa exponent - totalExponent mantissa' exponent')) =
        exponent - exponent' - 53 := by
    rw [targetExponent_eq, totalExponent, totalExponent, log2_eq least most, log2_eq least' most']
    omega
  have shift : (exponent - exponent' - (exponent - exponent' - 53)).toNat = 53 := by omega
  unfold divCore
  rw [target]
  dsimp only
  rw [shift, Nat.shiftLeft_eq]

/-- The quotient of two numbers, from the whole quotient of their mantissas and what is left. -/
theorem div_eq_whole_add (mantissa : ℕ) {mantissa' : ℕ} (positive' : 0 < mantissa')
    (exponent exponent' : ℤ) (shift : ℕ) :
    (mantissa * 2 ^ exponent / (mantissa' * 2 ^ exponent') : ℚ) =
      ((mantissa * 2 ^ shift / mantissa' : ℕ) + (mantissa * 2 ^ shift % mantissa' : ℕ) /
        mantissa') * 2 ^ (exponent - exponent' - shift) := by
  have castPositive : (mantissa' : ℚ) ≠ 0 := by exact_mod_cast positive'.ne'
  have unit := (unit_pos exponent').ne'
  have whole : (mantissa : ℚ) * 2 ^ shift = mantissa' * (mantissa * 2 ^ shift / mantissa' : ℕ) +
      (mantissa * 2 ^ shift % mantissa' : ℕ) := by
    exact_mod_cast (Nat.div_add_mod (mantissa * 2 ^ shift) mantissa').symm
  rw [zpow_sub₀ two_ne_zero, zpow_sub₀ two_ne_zero, zpow_natCast]
  generalize (mantissa * 2 ^ shift / mantissa' : ℕ) = quotient at whole
  generalize (mantissa * 2 ^ shift % mantissa' : ℕ) = left at whole
  field_simp
  linarith

theorem Stands.div {unpacked unpacked' : UnpackedFloat} {value value' : ℚ}
    (stands : Stands unpacked value) (stands' : Stands unpacked' value') (nonzero : value' ≠ 0)
    (moderate : Moderate (value / value')) :
    ∃ rounded, RoundsTo (value / value') rounded ∧
      Stands (UnpackedFloat.div Format.binary64 unpacked unpacked') rounded := by
  cases stands' with
  | zero => exact absurd rfl nonzero
  | @finite sign' mantissa' exponent' positive' least' most' =>
  cases stands with
  | zero sign => exact ⟨0, .inl ⟨zero_div _, rfl⟩, .zero (sign / sign')⟩
  | @finite sign mantissa exponent positive least most =>
  have large : 2 ^ 52 ≤ mantissa * 2 ^ 53 / mantissa' := by
    rw [Nat.le_div_iff_mul_le positive']
    omega
  have digits : (mantissa * 2 ^ 53 / mantissa').log2 < 54 := by
    rw [Nat.log2_lt (by omega), Nat.div_lt_iff_lt_mul positive']
    omega
  have describes := describes_fraction (mantissa * 2 ^ 53 / mantissa')
    (Nat.mod_lt (mantissa * 2 ^ 53) positive')
  obtain ⟨below, above⟩ := describes.bounds
  rw [mantissa_ofMantissaAndAccuracy] at below above
  rw [signed_div, div_eq_whole_add mantissa positive' _ _ 53, Nat.cast_ofNat] at moderate ⊢
  have bounds := (moderate_signed_iff.mp moderate).log2_bounds (by omega) below above
  unfold UnpackedFloat.div
  dsimp only
  rw [divCore_eq least most least' most' (by omega)]
  exact exists_stands (sign / sign') describes large (moderate_signed_iff.mp moderate)

theorem Holds.div {number number' : Float} {value value' : ℚ} (holds : Holds number value)
    (holds' : Holds number' value') (nonzero : value' ≠ 0) (moderate : Moderate (value / value')) :
    ∃ rounded, RoundsTo (value / value') rounded ∧ Holds (number / number') rounded := by
  obtain ⟨rounded, rounds, stands⟩ := Stands.div holds holds' nonzero moderate
  exact ⟨rounded, rounds, holds_of_stands stands⟩

/-! ### Natural numbers -/

theorem moderate_mul_two_pow {mantissa : ℕ} (small : mantissa ≤ 2 ^ 64) {exponent : ℤ}
    (low : -1000 ≤ exponent) (high : exponent ≤ 900) : Moderate (mantissa * 2 ^ exponent) := by
  rcases Nat.eq_zero_or_pos mantissa with rfl | positive
  · exact .inl (by rw [Nat.cast_zero, zero_mul])
  have unit := unit_pos exponent
  have castPositive : (1 : ℚ) ≤ mantissa := by exact_mod_cast positive
  have castSmall : (mantissa : ℚ) ≤ 2 ^ (64 : ℤ) := by exact_mod_cast small
  rw [Moderate, abs_of_nonneg (by positivity)]
  refine .inr ⟨?_, ?_⟩
  · calc (2 : ℚ) ^ (-1000 : ℤ) ≤ 2 ^ exponent := zpow_le_zpow_right₀ one_le_two low
      _ ≤ mantissa * 2 ^ exponent := le_mul_of_one_le_left unit.le castPositive
  · calc (mantissa : ℚ) * 2 ^ exponent ≤ 2 ^ (64 : ℤ) * 2 ^ exponent :=
          mul_le_mul_of_nonneg_right castSmall unit.le
      _ = 2 ^ (64 + exponent) := (zpow_add₀ two_ne_zero 64 exponent).symm
      _ ≤ 2 ^ (1000 : ℤ) := zpow_le_zpow_right₀ one_le_two (by omega)

theorem moderate_natCast {number : ℕ} (small : number ≤ 2 ^ 64) : Moderate (number : ℚ) := by
  have moderate := moderate_mul_two_pow small (by norm_num : -1000 ≤ 0) (by norm_num)
  rwa [zpow_zero, mul_one] at moderate

theorem moderate_intCast {number : ℤ} (small : number.natAbs ≤ 2 ^ 64) :
    Moderate (number : ℚ) := by
  have moderate := moderate_natCast small
  rwa [Nat.cast_natAbs, Int.cast_abs, Moderate, abs_abs, abs_eq_zero] at moderate

/-- A number of at most 53 digits is moved up to just 53 before it is rounded. -/
theorem round_eq {mantissa : ℕ} (positive : 0 < mantissa) (small : mantissa < 2 ^ 53) :
    UnpackedFloat.round Format.binary64 .positive mantissa 0 =
      roundWithAccuracy Format.binary64 .positive (mantissa * 2 ^ (52 - mantissa.log2))
        (-(52 - mantissa.log2 : ℕ)) .exact := by
  have digits : mantissa.log2 < 53 := (Nat.log2_lt positive.ne').mpr small
  have shift : (0 - Format.binary64.targetExponent (totalExponent mantissa 0)).toNat =
      52 - mantissa.log2 := by
    rw [targetExponent_eq, totalExponent]
    omega
  unfold UnpackedFloat.round decreaseExponent
  dsimp only
  rw [shift, Nat.shiftLeft_eq, zero_sub]

/-- A natural number of 53 digits becomes a float without loss. -/
theorem holds_toFloat {number : ℕ} (small : number < 2 ^ 53) :
    Holds number.toUInt64.toFloat number := by
  have isSame : number.toUInt64.toNat = number := Nat.mod_eq_of_lt (by omega)
  show Holds
    (.ofModel (.pack (UnpackedFloat.normalize _ (number.toUInt64.toNat : ℤ) 0 .positive))) _
  rw [isSame]
  refine holds_of_stands ?_
  rcases Nat.eq_zero_or_pos number with rfl | positive
  · exact .zero .positive
  have above : compare (number : ℤ) 0 = .gt := compare_gt_iff_gt.mpr (by exact_mod_cast positive)
  have least : 2 ^ 52 ≤ number * 2 ^ (52 - number.log2) := by
    have digits : number.log2 < 53 := (Nat.log2_lt positive.ne').mpr small
    calc 2 ^ 52 = 2 ^ number.log2 * 2 ^ (52 - number.log2) := by
          rw [← pow_add]
          congr 1
          omega
      _ ≤ number * 2 ^ (52 - number.log2) :=
          Nat.mul_le_mul_right _ (Nat.log2_self_le positive.ne')
  have isNumber : ((number * 2 ^ (52 - number.log2) : ℕ) : ℚ) * 2 ^ (-(52 - number.log2 : ℕ) : ℤ) =
      number := by
    rw [zpow_neg, zpow_natCast]
    push_cast
    exact mul_inv_cancel_right₀ (by positivity) _
  obtain ⟨rounded, rounds, stands⟩ := exists_stands .positive (describes_exact _) least
    (isNumber.symm ▸ moderate_natCast (by omega))
  rw [isNumber] at rounds
  change RoundsTo number rounded at rounds
  rw [← rounds.eq_of_significant (significant_natCast small)]
  unfold UnpackedFloat.normalize
  rw [above]
  dsimp only
  rw [Int.toNat_natCast, round_eq positive small]
  exact stands

/-- A natural number of 53 digits is multiplied by one. -/
theorem ofNat_eq_mul {number : ℕ} (small : number < 2 ^ 53) :
    Float.ofNat number = number.toUInt64.toFloat * .ofBits 0x3FF0000000000000 := by
  show Float.ofScientific number false 0 = _
  unfold Float.ofScientific
  rw [dif_pos ⟨small, by decide⟩]
  rfl

theorem holds_one : Holds (.ofBits 0x3FF0000000000000) 1 := by
  have stands := Stands.finite .positive (by norm_num : 0 < 2 ^ 52) le_rfl (by norm_num)
    (by norm_num : -1074 ≤ -52) (by norm_num)
  have isOne : signed .positive ((2 ^ 52 : ℕ) * 2 ^ (-52 : ℤ)) = 1 := by norm_num [signed]
  rw [isOne] at stands
  exact stands

theorem ofNat_eq_ofScientific {number : ℕ} (large : ¬ number < 2 ^ 53) :
    Float.ofNat number = .ofModel (.pack (.ofScientific Format.binary64 number 0)) := by
  show Float.ofScientific number false 0 = _
  unfold Float.ofScientific
  rw [dif_neg (fun fits => large fits.1)]
  rfl

/-- A longer one is moved up by another 53 digits, and multiplied by no tens. -/
theorem ofScientific_eq {number : ℕ} (positive : 0 < number) :
    UnpackedFloat.ofScientific Format.binary64 number 0 =
      roundWithAccuracy Format.binary64 .positive (number * 2 ^ 53) (-53) .exact := by
  have notTiny : ¬ (0 : ℤ) < -(2 ^ Format.binary64.exponentBits + number.log2) := by
    have power : (0 : ℤ) < 2 ^ Format.binary64.exponentBits := by positivity
    omega
  unfold UnpackedFloat.ofScientific
  rw [dif_neg positive.ne', if_neg (by decide), if_neg notTiny, if_pos le_rfl]
  unfold UnpackedFloat.mul
  dsimp only
  rw [Int.toNat_zero, pow_zero, mul_one, add_zero, Nat.shiftLeft_eq]
  rfl

/-- A natural number becomes the float next to it. -/
theorem exists_holds_ofNat {number : ℕ} (moderate : Moderate (number : ℚ)) :
    ∃ rounded, RoundsTo number rounded ∧ Holds (Float.ofNat number) rounded := by
  by_cases small : number < 2 ^ 53
  · rw [ofNat_eq_mul small, ← mul_one (number : ℚ)]
    exact (holds_toFloat small).mul holds_one (by rwa [mul_one])
  · have isNumber : ((number * 2 ^ 53 : ℕ) : ℚ) * 2 ^ (-53 : ℤ) = number := by
      push_cast
      exact mul_inv_cancel_right₀ (by positivity) _
    obtain ⟨rounded, rounds, stands⟩ := exists_stands .positive (describes_exact (number * 2 ^ 53))
      (by omega) (isNumber.symm ▸ moderate)
    rw [isNumber] at rounds
    rw [ofNat_eq_ofScientific small, ofScientific_eq (by omega)]
    exact ⟨rounded, rounds, holds_of_stands stands⟩

end SlashScript.Decimal
