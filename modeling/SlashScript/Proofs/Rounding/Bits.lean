/-
This file says what number a binary64 number stands for. Its bits are read in the same way by the
operations on floats and by the definitions that take a float apart here.
-/

import SlashScript.Decimal.Binary
import SlashScript.Proofs.Rounding.Mantissa

namespace SlashScript.Decimal

open Float.Model Float.Model.UnpackedFloat

/-! ### The parts of a float -/

section

variable (bits : BitVec Format.binary64.numBits)

theorem toNat_unpackMantissa : (unpackMantissa bits).toNat = bits.toNat % 2 ^ 52 := by
  simp [unpackMantissa]

theorem toNat_unpackExponent : (unpackExponent bits).toNat = bits.toNat / 2 ^ 52 % 2 ^ 11 := by
  simp [unpackExponent, Nat.shiftRight_eq_div_pow]

theorem toNat_unpackSign : (unpackSign bits).toNat = bits.toNat / 2 ^ 63 := by
  have small : bits.toNat < 2 ^ 64 := bits.isLt
  show (BitVec.extractLsb 63 63 bits).toNat = _
  rw [BitVec.extractLsb_toNat, Nat.shiftRight_eq_div_pow]
  omega

theorem unpackExponent_eq_ones_iff :
    unpackExponent bits = (-1#_) ↔ bits.toNat / 2 ^ 52 % 2 ^ 11 = 2047 := by
  rw [← toNat_unpackExponent, ← BitVec.toNat_inj]
  rfl

theorem unpackExponent_eq_zero_iff :
    unpackExponent bits = 0#_ ↔ bits.toNat / 2 ^ 52 % 2 ^ 11 = 0 := by
  rw [← toNat_unpackExponent, ← BitVec.toNat_inj]
  rfl

theorem unpackMantissa_eq_zero_iff : unpackMantissa bits = 0#_ ↔ bits.toNat % 2 ^ 52 = 0 := by
  rw [← toNat_unpackMantissa, ← BitVec.toNat_inj]
  rfl

theorem toNat_implicit (mantissa : BitVec Format.binary64.mantissaBitsWithoutImplicit) :
    (1#1 ++ mantissa).toNat = 2 ^ 52 + mantissa.toNat := by
  rw [BitVec.toNat_append, ← Nat.shiftLeft_add_eq_or_of_lt mantissa.isLt]
  rfl

end

/-- Whether a sign is that of the negative numbers. -/
def isNegative : Sign → Bool
  | .negative => true
  | .positive => false

theorem isNegative_ofBitVec (bits : BitVec Format.binary64.numBits) :
    isNegative (.ofBitVec (unpackSign bits)) = decide (2 ^ 63 ≤ bits.toNat) := by
  have small : bits.toNat < 2 ^ 64 := bits.isLt
  have field := toNat_unpackSign bits
  unfold Sign.ofBitVec
  split
  · rename_i isZero
    rw [isZero, BitVec.toNat_zero] at field
    exact (decide_eq_false (by omega)).symm
  · rename_i notZero
    have nonzero : (unpackSign bits).toNat ≠ 0 := fun isZero =>
      notZero (BitVec.eq_of_toNat_eq isZero)
    exact (decide_eq_true (by omega)).symm

/-- The parts of a float, as the operations take it apart. -/
def Binary.ofUnpacked : UnpackedFloat → Binary
  | .infinity sign => .infinite (isNegative sign)
  | .notANumber => .notANumber
  | .zero sign => .finite (isNegative sign) 0 leastExponent
  | .finite sign mantissa exponent _ => .finite (isNegative sign) mantissa exponent

theorem Binary.ofUnpacked_finite (sign : Sign) (mantissa : ℕ) (exponent : ℤ)
    (positive : 0 < mantissa) :
    ofUnpacked (.finite sign mantissa exponent positive) =
      .finite (isNegative sign) mantissa exponent := rfl

/-- The operations take a float apart as its bits are read here. -/
theorem Binary.ofFloat_eq (number : Float) :
    ofFloat number = ofUnpacked number.toModel.unpack := by
  obtain ⟨⟨⟨bits⟩, valid⟩⟩ := number
  have sign := isNegative_ofBitVec bits
  show (if bits.toNat / 2 ^ 52 % 2 ^ 11 = 2047 then
      if bits.toNat % 2 ^ 52 = 0 then Binary.infinite (decide (2 ^ 63 ≤ bits.toNat))
      else .notANumber
    else if bits.toNat / 2 ^ 52 % 2 ^ 11 = 0 then
      .finite (decide (2 ^ 63 ≤ bits.toNat)) (bits.toNat % 2 ^ 52) leastExponent
    else .finite (decide (2 ^ 63 ≤ bits.toNat)) (2 ^ 52 + bits.toNat % 2 ^ 52)
      (((bits.toNat / 2 ^ 52 % 2 ^ 11 : ℕ) : ℤ) - 1075)) = ofUnpacked (unpack Format.binary64 bits)
  rw [← sign]
  unfold UnpackedFloat.unpack
  by_cases ones : bits.toNat / 2 ^ 52 % 2 ^ 11 = 2047
  · rw [if_pos ones, if_pos ((unpackExponent_eq_ones_iff bits).mpr ones)]
    by_cases zero : bits.toNat % 2 ^ 52 = 0
    · rw [if_pos zero, if_pos ((unpackMantissa_eq_zero_iff bits).mpr zero)]
      rfl
    · rw [if_neg zero, if_neg (mt (unpackMantissa_eq_zero_iff bits).mp zero)]
      rfl
  rw [if_neg ones, if_neg (mt (unpackExponent_eq_ones_iff bits).mp ones)]
  by_cases subnormal : bits.toNat / 2 ^ 52 % 2 ^ 11 = 0
  · rw [if_pos subnormal, if_pos ((unpackExponent_eq_zero_iff bits).mpr subnormal)]
    by_cases zero : bits.toNat % 2 ^ 52 = 0
    · rw [dif_pos ((unpackMantissa_eq_zero_iff bits).mpr zero), zero]
      rfl
    · rw [dif_neg (mt (unpackMantissa_eq_zero_iff bits).mp zero), ofUnpacked_finite,
        toNat_unpackMantissa, toNat_unpackExponent, subnormal]
      rfl
  · rw [if_neg subnormal, if_neg (mt (unpackExponent_eq_zero_iff bits).mp subnormal),
      ofUnpacked_finite, toNat_implicit, toNat_unpackMantissa, toNat_unpackExponent]
    rfl

/-! ### The number that a float stands for -/

/-- A number with a sign. -/
def signed : Sign → ℚ → ℚ
  | .negative, number => -number
  | .positive, number => number

theorem abs_signed (sign : Sign) (number : ℚ) : |signed sign number| = |number| := by
  cases sign
  · exact abs_neg number
  · rfl

theorem signed_mul (sign sign' : Sign) (number number' : ℚ) :
    signed sign number * signed sign' number' = signed (sign * sign') (number * number') := by
  cases sign <;> cases sign'
  · exact neg_mul_neg number number'
  · exact neg_mul number number'
  · exact mul_neg number number'
  · rfl

theorem signed_div (sign sign' : Sign) (number number' : ℚ) :
    signed sign number / signed sign' number' = signed (sign / sign') (number / number') := by
  cases sign <;> cases sign'
  · exact neg_div_neg_eq number number'
  · exact neg_div number' number
  · exact div_neg number
  · rfl

theorem RoundsTo.signed {exact rounded : ℚ} (rounds : RoundsTo exact rounded) (sign : Sign) :
    RoundsTo (signed sign exact) (signed sign rounded) := by
  cases sign
  · exact rounds.neg
  · exact rounds

/-- The unpacked float is a zero, or it has just 53 digits and stands for this number. -/
inductive Stands : UnpackedFloat → ℚ → Prop where
  | zero (sign : Sign) : Stands (.zero sign) 0
  | finite (sign : Sign) {mantissa : ℕ} {exponent : ℤ} (positive : 0 < mantissa)
    (least : 2 ^ 52 ≤ mantissa) (most : mantissa < 2 ^ 53) (low : -1074 ≤ exponent)
    (high : exponent ≤ 971) :
    Stands (.finite sign mantissa exponent positive) (signed sign (mantissa * 2 ^ exponent))

theorem log2_eq {mantissa : ℕ} (least : 2 ^ 52 ≤ mantissa) (most : mantissa < 2 ^ 53) :
    mantissa.log2 = 52 :=
  (Nat.log2_eq_iff (by omega)).mpr ⟨least, most⟩

end SlashScript.Decimal
