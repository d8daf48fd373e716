/-
This file says which pairs of a mantissa and an exponent are the parts of a binary64 number. The
mantissa of such a number has 53 digits, or the exponent is the least one. A number is packed from
its parts, and every number is the one that is packed from its own parts; so two numbers with the
same sign and the same parts are equal.
-/

import SlashScript.Proofs.Rounding.Bits

namespace SlashScript.Decimal

open Float.Model Float.Model.UnpackedFloat

/-! ### Parts of a number -/

/-- The parts of a positive number: 53 digits, or fewer before the least exponent. -/
structure Canonical (mantissa : ℕ) (exponent : ℤ) : Prop where
  positive : 0 < mantissa
  most : mantissa < 2 ^ 53
  low : -1074 ≤ exponent
  high : exponent ≤ 971
  full : 2 ^ 52 ≤ mantissa ∨ exponent = -1074

/-- A finite number is packed into its sign, an exponent field and the mantissa. A mantissa of fewer
than 53 digits is marked by an exponent field of zero. -/
theorem Canonical.pack_eq {mantissa : ℕ} {exponent : ℤ} (canonical : Canonical mantissa exponent)
    (sign : Sign) :
    UnpackedFloat.pack Format.binary64 (.finite sign mantissa exponent canonical.positive) =
      packComponents Format.binary64 sign
        (BitVec.ofNat _ (if 2 ^ 52 ≤ mantissa then (exponent + 1075).toNat else 0))
        (BitVec.ofNat _ mantissa) := by
  obtain ⟨positive, most, low, high, full⟩ := canonical
  have biased : (exponent + Format.binary64.exponentBias +
      Format.binary64.mantissaBitsWithoutImplicit).toNat = (exponent + 1075).toNat := by
    show (exponent + 1023 + 52).toNat = _
    omega
  have digits : Format.binary64.mantissaBits = 53 := rfl
  unfold UnpackedFloat.pack
  dsimp only
  rw [biased, digits, if_neg (by show ¬ 2 ^ 11 ≤ _; omega)]
  split
  · rename_i log
    have least : 2 ^ 52 ≤ mantissa := (Nat.le_log2 positive.ne').mp (by omega)
    rw [if_pos least]
  · rename_i log
    have small : ¬ 2 ^ 52 ≤ mantissa := fun least => log (by rw [log2_eq least most])
    rw [if_neg small]

/-! ### Bits and their fields -/

section

variable (bits : BitVec Format.binary64.numBits)

theorem toNat_packComponents (sign : Sign) (exponent : BitVec Format.binary64.exponentBits)
    (mantissa : BitVec Format.binary64.mantissaBitsWithoutImplicit) :
    (packComponents Format.binary64 sign exponent mantissa).toNat =
      sign.toBitVec.toNat * 2 ^ 63 + exponent.toNat * 2 ^ 52 + mantissa.toNat := by
  have lower := Nat.shiftLeft_add_eq_or_of_lt mantissa.isLt (sign.toBitVec ++ exponent).toNat
  have upper := Nat.shiftLeft_add_eq_or_of_lt exponent.isLt sign.toBitVec.toNat
  unfold packComponents
  rw [BitVec.toNat_append, ← lower, BitVec.toNat_append, ← upper, Nat.shiftLeft_eq,
    Nat.shiftLeft_eq]
  show (sign.toBitVec.toNat * 2 ^ 11 + exponent.toNat) * 2 ^ 52 + mantissa.toNat = _
  ring

theorem toBitVec_ofBitVec (field : BitVec 1) : (Sign.ofBitVec field).toBitVec = field := by
  revert field
  decide

/-- The sign is the uppermost bit. -/
theorem sign_packComponents (sign : Sign) (exponent : BitVec Format.binary64.exponentBits)
    (mantissa : BitVec Format.binary64.mantissaBitsWithoutImplicit) :
    Sign.ofBitVec (unpackSign (packComponents Format.binary64 sign exponent mantissa)) = sign := by
  have below : exponent.toNat < 2 ^ 11 := exponent.isLt
  have lowest : mantissa.toNat < 2 ^ 52 := mantissa.isLt
  have field := toNat_unpackSign (packComponents Format.binary64 sign exponent mantissa)
  have same : unpackSign (packComponents Format.binary64 sign exponent mantissa) =
      sign.toBitVec := by
    refine BitVec.eq_of_toNat_eq (field.trans ?_)
    rw [toNat_packComponents]
    omega
  rw [same]
  cases sign <;> rfl

/-- Bits are made up of their fields. -/
theorem packComponents_unpack :
    packComponents Format.binary64 (.ofBitVec (unpackSign bits)) (unpackExponent bits)
      (unpackMantissa bits) = bits := by
  have small : bits.toNat < 2 ^ 64 := bits.isLt
  refine BitVec.eq_of_toNat_eq ?_
  rw [toNat_packComponents, toBitVec_ofBitVec, toNat_unpackSign, toNat_unpackExponent,
    toNat_unpackMantissa]
  omega

/-- What the bits are unpacked as, and what their fields say. -/
inductive Unpacks : UnpackedFloat → Prop where
  | notANumber (ones : unpackExponent bits = -1#_) (notZero : unpackMantissa bits ≠ 0#_) :
    Unpacks .notANumber
  | infinity (ones : unpackExponent bits = -1#_) (zero : unpackMantissa bits = 0#_) :
    Unpacks (.infinity (.ofBitVec (unpackSign bits)))
  | zero (zeros : unpackExponent bits = 0#_) (zero : unpackMantissa bits = 0#_) :
    Unpacks (.zero (.ofBitVec (unpackSign bits)))
  | finite {mantissa : ℕ} {exponent : ℤ} (canonical : Canonical mantissa exponent)
    (isExponent : (unpackExponent bits).toNat =
      if 2 ^ 52 ≤ mantissa then (exponent + 1075).toNat else 0)
    (isMantissa : (unpackMantissa bits).toNat = mantissa % 2 ^ 52) :
    Unpacks (.finite (.ofBitVec (unpackSign bits)) mantissa exponent canonical.positive)

theorem unpacks : Unpacks bits (.unpack Format.binary64 bits) := by
  have mostMantissa : (unpackMantissa bits).toNat < 2 ^ 52 := (unpackMantissa bits).isLt
  have mostExponent : (unpackExponent bits).toNat < 2 ^ 11 := (unpackExponent bits).isLt
  unfold UnpackedFloat.unpack
  by_cases ones : unpackExponent bits = -1#_
  · rw [if_pos ones]
    by_cases zero : unpackMantissa bits = 0#_
    · rw [if_pos zero]
      exact .infinity ones zero
    · rw [if_neg zero]
      exact .notANumber ones zero
  rw [if_neg ones]
  have notLast : (unpackExponent bits).toNat ≠ 2047 := fun isLast =>
    ones (BitVec.eq_of_toNat_eq isLast)
  by_cases zeros : unpackExponent bits = 0#_
  · rw [if_pos zeros]
    have isZero : (unpackExponent bits).toNat = 0 := congrArg BitVec.toNat zeros
    have isLeast : ((unpackExponent bits).toNat : ℤ) - (Format.binary64.exponentBias +
        Format.binary64.mantissaBitsWithoutImplicit) + 1 = -1074 := by
      rw [isZero]
      rfl
    by_cases zero : unpackMantissa bits = 0#_
    · rw [dif_pos zero]
      exact .zero zeros zero
    · have positive : 0 < (unpackMantissa bits).toNat :=
        Nat.pos_of_ne_zero fun isZero => zero (BitVec.eq_of_toNat_eq isZero)
      rw [dif_neg zero, isLeast]
      exact .finite ⟨positive, by omega, le_rfl, by omega, .inr rfl⟩
        (isZero.trans (if_neg (by omega)).symm) (by omega)
  · rw [if_neg zeros]
    have aboveZero : (unpackExponent bits).toNat ≠ 0 := fun isZero =>
      zeros (BitVec.eq_of_toNat_eq isZero)
    have isExponent : ((unpackExponent bits).toNat : ℤ) - (Format.binary64.exponentBias +
        Format.binary64.mantissaBitsWithoutImplicit) = (unpackExponent bits).toNat - 1075 := rfl
    have implicit := toNat_implicit (unpackMantissa bits)
    rw [isExponent]
    refine .finite ⟨by omega, by omega, by omega, by omega, .inl (by omega)⟩ ?_ (by omega)
    rw [if_pos (by omega)]
    omega

end

/-- What was unpacked is packed into the same bits. -/
theorem pack_unpack {bits : BitVec Format.binary64.numBits} (valid : Format.binary64.Valid bits) :
    UnpackedFloat.pack Format.binary64 (.unpack Format.binary64 bits) = bits := by
  have whole := packComponents_unpack bits
  have isUnpacked := unpacks bits
  generalize UnpackedFloat.unpack Format.binary64 bits = unpacked at isUnpacked
  cases isUnpacked with
  | notANumber ones notZero => exact (valid.eq_packedNaN ones notZero).symm
  | infinity ones zero =>
    rw [ones, zero] at whole
    exact whole
  | zero zeros zero =>
    rw [zeros, zero] at whole
    exact whole
  | @finite mantissa exponent canonical isExponent isMantissa =>
    have sameMantissa : BitVec.ofNat Format.binary64.mantissaBitsWithoutImplicit mantissa =
        unpackMantissa bits := BitVec.eq_of_toNat_eq isMantissa.symm
    rw [canonical.pack_eq, ← isExponent, BitVec.ofNat_toNat, BitVec.setWidth_eq, sameMantissa,
      whole]

/-! ### Numbers and their parts -/

/-- A number is the one that is packed from its own parts. -/
theorem ofModel_pack_unpack (number : Float) :
    Float.ofModel (.pack number.toModel.unpack) = number := by
  obtain ⟨⟨⟨bits⟩, valid⟩⟩ := number
  have same : UnpackedFloat.pack Format.binary64 (.unpack Format.binary64 bits) = bits :=
    pack_unpack valid
  exact congrArg Float.ofModel
    ((Float.Model.mk.injEq ..).mpr (congrArg UInt64.ofBitVec same))

namespace Canonical

variable {mantissa : ℕ} {exponent : ℤ} (canonical : Canonical mantissa exponent)

/-- The number with these parts. -/
def float (sign : Sign) : Float :=
  .ofModel (.pack (.finite sign mantissa exponent canonical.positive))

include canonical

/-- A number has the parts that it is packed from. -/
theorem unpack_float (sign : Sign) : (canonical.float sign).toModel.unpack =
    .finite sign mantissa exponent canonical.positive := by
  have isUnpacked := unpacks (UnpackedFloat.pack Format.binary64
    (.finite sign mantissa exponent canonical.positive))
  show UnpackedFloat.unpack Format.binary64 (UnpackedFloat.pack Format.binary64 _) = _
  generalize parts : UnpackedFloat.unpack Format.binary64 (UnpackedFloat.pack Format.binary64
    (.finite sign mantissa exponent canonical.positive)) = unpacked at isUnpacked
  rw [canonical.pack_eq] at isUnpacked
  obtain ⟨positive, most, low, high, full⟩ := canonical
  have field : (BitVec.ofNat Format.binary64.exponentBits
      (if 2 ^ 52 ≤ mantissa then (exponent + 1075).toNat else 0)).toNat =
        if 2 ^ 52 ≤ mantissa then (exponent + 1075).toNat else 0 :=
    Nat.mod_eq_of_lt (by show _ < 2 ^ 11; split <;> omega)
  cases isUnpacked with
  | notANumber ones | infinity ones =>
    rw [unpackExponent_packComponents] at ones
    have last := field.symm.trans (congrArg BitVec.toNat ones)
    have isLast : (-1#_ : BitVec Format.binary64.exponentBits).toNat = 2047 := rfl
    split at last <;> omega
  | zero zeros zero =>
    rw [unpackExponent_packComponents] at zeros
    rw [unpackMantissa_packComponents] at zero
    have first := field.symm.trans (congrArg BitVec.toNat zeros)
    have isFirst : (0#_ : BitVec Format.binary64.exponentBits).toNat = 0 := rfl
    have none : mantissa % 2 ^ 52 = 0 := congrArg BitVec.toNat zero
    split at first <;> omega
  | @finite mantissa' exponent' canonical' isExponent isMantissa =>
    obtain ⟨positive', most', low', high', full'⟩ := canonical'
    rw [unpackExponent_packComponents, field] at isExponent
    rw [unpackMantissa_packComponents] at isMantissa
    have sameDigits : mantissa % 2 ^ 52 = mantissa' % 2 ^ 52 := isMantissa
    obtain ⟨rfl, rfl⟩ : mantissa' = mantissa ∧ exponent' = exponent := by
      split at isExponent <;> split at isExponent <;> omega
    rw [sign_packComponents]

theorem neg_float : -canonical.float .positive = canonical.float .negative := by
  show Float.ofModel (.pack (canonical.float .positive).toModel.unpack.neg) = _
  rw [canonical.unpack_float]
  rfl

end Canonical

/-- Packing a float and unpacking it changes nothing. -/
theorem Stands.unpack_pack {unpacked : UnpackedFloat} {number : ℚ}
    (stands : Stands unpacked number) : (Float.Model.pack unpacked).unpack = unpacked := by
  cases stands with
  | zero sign => cases sign <;> rfl
  | finite sign positive least most low high =>
    exact (Canonical.mk positive most low high (.inl least)).unpack_float sign

/-- A zero is told by its sign. -/
theorem Binary.eq_zero {number : Float} {negative : Bool} {exponent : ℤ}
    (parts : ofFloat number = .finite negative 0 exponent) :
    number = if negative then -0.0 else 0.0 := by
  have whole := ofModel_pack_unpack number
  rw [ofFloat_eq] at parts
  generalize number.toModel.unpack = unpacked at parts whole
  cases unpacked with
  | notANumber | infinity => cases parts
  | zero sign =>
    cases parts
    rw [← whole]
    cases sign
    · rfl
    · rfl
  | finite sign mantissa exponent positive =>
    cases parts
    exact absurd positive (Nat.lt_irrefl 0)

/-- A number that is not zero is told by its sign and its parts. -/
theorem Binary.exists_float {number : Float} {negative : Bool} {mantissa : ℕ} {exponent : ℤ}
    (parts : ofFloat number = .finite negative mantissa exponent) (positive : 0 < mantissa) :
    ∃ (sign : Sign) (canonical : Canonical mantissa exponent),
      negative = isNegative sign ∧ number = canonical.float sign := by
  obtain ⟨⟨⟨bits⟩, valid⟩⟩ := number
  have whole := ofModel_pack_unpack ⟨⟨⟨bits⟩, valid⟩⟩
  have isUnpacked : Unpacks bits (Float.Model.unpack ⟨⟨bits⟩, valid⟩) := unpacks bits
  rw [ofFloat_eq] at parts
  generalize Float.Model.unpack ⟨⟨bits⟩, valid⟩ = unpacked at parts whole isUnpacked
  cases isUnpacked with
  | notANumber | infinity => cases parts
  | zero =>
    cases parts
    exact absurd positive (Nat.lt_irrefl 0)
  | finite canonical =>
    cases parts
    exact ⟨_, canonical, rfl, whole.symm⟩

end SlashScript.Decimal
