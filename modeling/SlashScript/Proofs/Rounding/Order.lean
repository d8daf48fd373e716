/-
This file says how binary64 numbers are compared. Each of them has a place among the rational
numbers, and what is not a number has none; one is less than another just if it has the lesser
place. Rounding keeps the order, so 64-bit integers become floats in their own order, although two
of them may become the same float.
-/

import SlashScript.Proofs.Rounding.Whole

namespace SlashScript.Decimal

open Float.Model Float.Model.UnpackedFloat

/-! ### Parts in order -/

/-- The place of infinity: the power of two that comes after all finite numbers. -/
@[irreducible]
def infinitePlace : ℚ := 2 ^ (1024 : ℤ)

theorem infinitePlace_pos : 0 < infinitePlace := by
  rw [infinitePlace]
  exact unit_pos 1024

section

variable {mantissa mantissa' : ℕ} {exponent exponent' : ℤ}

theorem Canonical.lt_two_pow (canonical : Canonical mantissa exponent) :
    (mantissa * 2 ^ exponent : ℚ) < 2 ^ (53 + exponent) := by
  have most : (mantissa : ℚ) < 2 ^ 53 := by exact_mod_cast canonical.most
  rw [zpow_add₀ two_ne_zero]
  exact mul_lt_mul_of_pos_right most (unit_pos exponent)

theorem Canonical.lt_of_exponent_lt (canonical : Canonical mantissa exponent)
    (canonical' : Canonical mantissa' exponent') (less : exponent < exponent') :
    (mantissa * 2 ^ exponent : ℚ) < mantissa' * 2 ^ exponent' := by
  -- The greater exponent is not the least one, so that all 53 digits stand before it.
  have full : 2 ^ 52 ≤ mantissa' :=
    canonical'.full.resolve_right (canonical.low.trans_lt less).ne'
  have least : (2 ^ 52 : ℚ) ≤ mantissa' := by exact_mod_cast full
  calc (mantissa * 2 ^ exponent : ℚ) < 2 ^ (53 + exponent) := canonical.lt_two_pow
    _ ≤ 2 ^ (52 + exponent') := zpow_le_zpow_right₀ one_le_two (by omega)
    _ = 2 ^ 52 * 2 ^ exponent' := zpow_add₀ two_ne_zero _ _
    _ ≤ mantissa' * 2 ^ exponent' := mul_le_mul_of_nonneg_right least (unit_pos exponent').le

/-- Numbers are ordered by their exponents first, and then by their mantissas. -/
theorem Canonical.compare_eq (canonical : Canonical mantissa exponent)
    (canonical' : Canonical mantissa' exponent') :
    (compare exponent exponent').then (compare mantissa mantissa') =
      compare (mantissa * 2 ^ exponent : ℚ) (mantissa' * 2 ^ exponent') := by
  rcases lt_trichotomy exponent exponent' with less | rfl | greater
  · rw [compare_lt_iff_lt.mpr less,
      compare_lt_iff_lt.mpr (canonical.lt_of_exponent_lt canonical' less)]
    rfl
  · have scaled : StrictMono fun mantissa : ℕ => (mantissa * 2 ^ exponent : ℚ) :=
      fun _ _ less => mul_lt_mul_of_pos_right (Nat.cast_lt.mpr less) (unit_pos exponent)
    rw [compare_eq_iff_eq.mpr rfl, ← cmp_eq_compare mantissa, ← cmp_eq_compare (_ : ℚ)]
    exact (scaled.cmp_map_eq mantissa mantissa').symm
  · rw [compare_gt_iff_gt.mpr greater,
      compare_gt_iff_gt.mpr (canonical'.lt_of_exponent_lt canonical greater)]
    rfl

/-- The size of a finite number that is not zero. -/
theorem Canonical.size_bounds (canonical : Canonical mantissa exponent) :
    (0 : ℚ) < mantissa * 2 ^ exponent ∧ mantissa * 2 ^ exponent < infinitePlace := by
  have high := canonical.high
  rw [infinitePlace]
  exact ⟨mul_pos (Nat.cast_pos.mpr canonical.positive) (unit_pos exponent),
    canonical.lt_two_pow.trans_le (zpow_le_zpow_right₀ one_le_two (by omega))⟩

end

/-! ### Places -/

/-- The place of an unpacked float among the rational numbers. -/
inductive Placed : UnpackedFloat → ℚ → Prop where
  | zero (sign : Sign) : Placed (.zero sign) 0
  | infinity (sign : Sign) : Placed (.infinity sign) (signed sign infinitePlace)
  | finite (sign : Sign) {mantissa : ℕ} {exponent : ℤ} (canonical : Canonical mantissa exponent) :
    Placed (.finite sign mantissa exponent canonical.positive)
      (signed sign (mantissa * 2 ^ exponent))

theorem Placed.unique {unpacked : UnpackedFloat} {place place' : ℚ}
    (placed : Placed unpacked place) (placed' : Placed unpacked place') : place = place' := by
  cases placed <;> cases placed' <;> rfl

/-! ### Places in order -/

section

variable {number number' : ℚ}

theorem some_lt_eq_compare (less : number < number') :
    some Ordering.lt = some (compare number number') :=
  congrArg some (compare_lt_iff_lt.mpr less).symm

theorem some_gt_eq_compare (greater : number' < number) :
    some Ordering.gt = some (compare number number') :=
  congrArg some (compare_gt_iff_gt.mpr greater).symm

end

theorem some_eq_eq_compare (number : ℚ) : some Ordering.eq = some (compare number number) :=
  congrArg some (compare_eq_iff_eq.mpr rfl).symm

theorem compare_neg (number number' : ℚ) :
    compare (-number) (-number') = (compare number number').swap := by
  have reverses : StrictAnti fun number : ℚ => -number := fun _ _ => neg_lt_neg
  rw [← cmp_eq_compare, ← cmp_eq_compare, cmp_swap]
  exact reverses.cmp_map_eq number number'

section

variable {unpacked' : UnpackedFloat} {place' : ℚ} (placed' : Placed unpacked' place') (sign : Sign)

include placed'

theorem Placed.compare_zero :
    (UnpackedFloat.zero sign).compare unpacked' = some (compare 0 place') := by
  cases placed' with
  | zero sign' => exact some_eq_eq_compare 0
  | infinity sign' =>
    cases sign' with
    | positive => exact some_lt_eq_compare infinitePlace_pos
    | negative => exact some_gt_eq_compare (neg_lt_zero.mpr infinitePlace_pos)
  | finite sign' canonical' =>
    obtain ⟨positive, -⟩ := canonical'.size_bounds
    cases sign' with
    | positive => exact some_lt_eq_compare positive
    | negative => exact some_gt_eq_compare (neg_lt_zero.mpr positive)

theorem Placed.compare_infinity : (UnpackedFloat.infinity sign).compare unpacked' =
    some (compare (signed sign infinitePlace) place') := by
  have huge := infinitePlace_pos
  have low := neg_lt_zero.mpr huge
  cases placed' with
  | zero sign' =>
    cases sign with
    | positive => exact some_gt_eq_compare huge
    | negative => exact some_lt_eq_compare low
  | infinity sign' =>
    cases sign <;> cases sign'
    · exact some_eq_eq_compare (-infinitePlace)
    · exact some_lt_eq_compare (low.trans huge)
    · exact some_gt_eq_compare (low.trans huge)
    · exact some_eq_eq_compare infinitePlace
  | finite sign' canonical' =>
    obtain ⟨positive, moderate⟩ := canonical'.size_bounds
    cases sign <;> cases sign'
    · exact some_lt_eq_compare (neg_lt_neg moderate)
    · exact some_lt_eq_compare (low.trans positive)
    · exact some_gt_eq_compare ((neg_lt_zero.mpr positive).trans huge)
    · exact some_gt_eq_compare moderate

theorem Placed.compare_finite {mantissa : ℕ} {exponent : ℤ}
    (canonical : Canonical mantissa exponent) :
    (UnpackedFloat.finite sign mantissa exponent canonical.positive).compare unpacked' =
      some (compare (signed sign (mantissa * 2 ^ exponent)) place') := by
  have huge := infinitePlace_pos
  have low := neg_lt_zero.mpr huge
  obtain ⟨positive, moderate⟩ := canonical.size_bounds
  cases placed' with
  | zero sign' =>
    cases sign with
    | positive => exact some_gt_eq_compare positive
    | negative => exact some_lt_eq_compare (neg_lt_zero.mpr positive)
  | infinity sign' =>
    cases sign <;> cases sign'
    · exact some_gt_eq_compare (neg_lt_neg moderate)
    · exact some_lt_eq_compare ((neg_lt_zero.mpr positive).trans huge)
    · exact some_gt_eq_compare (low.trans positive)
    · exact some_lt_eq_compare moderate
  | finite sign' canonical' =>
    obtain ⟨positive', -⟩ := canonical'.size_bounds
    have sizes := canonical.compare_eq canonical'
    cases sign <;> cases sign'
    · exact congrArg some ((congrArg Ordering.swap sizes).trans (compare_neg _ _).symm)
    · exact some_lt_eq_compare ((neg_lt_zero.mpr positive).trans positive')
    · exact some_gt_eq_compare ((neg_lt_zero.mpr positive').trans positive)
    · exact congrArg some sizes

end

/-- Unpacked floats are compared as their places are. -/
theorem Placed.compare_eq {unpacked unpacked' : UnpackedFloat} {place place' : ℚ}
    (placed : Placed unpacked place) (placed' : Placed unpacked' place') :
    unpacked.compare unpacked' = some (compare place place') := by
  cases placed with
  | zero sign => exact placed'.compare_zero sign
  | infinity sign => exact placed'.compare_infinity sign
  | finite sign canonical => exact placed'.compare_finite sign canonical

theorem Placed.compare_eq_lt_iff {unpacked unpacked' : UnpackedFloat} {place place' : ℚ}
    (placed : Placed unpacked place) (placed' : Placed unpacked' place') :
    unpacked.compare unpacked' = some .lt ↔ place < place' := by
  rw [placed.compare_eq placed', Option.some_inj, compare_lt_iff_lt]

theorem Stands.placed {unpacked : UnpackedFloat} {value : ℚ} (stands : Stands unpacked value) :
    Placed unpacked value := by
  cases stands with
  | zero sign => exact .zero sign
  | finite sign positive least most low high =>
    exact .finite sign ⟨positive, most, low, high, .inl least⟩

/-- The float lies at this place among the rational numbers. -/
def LiesAt (number : Float) (place : ℚ) : Prop :=
  Placed number.toModel.unpack place

theorem LiesAt.unique {number : Float} {place place' : ℚ} (lies : LiesAt number place)
    (lies' : LiesAt number place') : place = place' :=
  Placed.unique lies lies'

/-- All floats have a place, apart from what is not a number. -/
theorem exists_liesAt (number : Float) :
    number.toModel.unpack = .notANumber ∨ ∃ place, LiesAt number place := by
  obtain ⟨⟨⟨bits⟩, valid⟩⟩ := number
  have isUnpacked : Unpacks bits (Float.Model.unpack ⟨⟨bits⟩, valid⟩) := unpacks bits
  unfold LiesAt
  generalize Float.Model.unpack ⟨⟨bits⟩, valid⟩ = unpacked at isUnpacked
  cases isUnpacked with
  | notANumber => exact .inl rfl
  | infinity => exact .inr ⟨_, .infinity _⟩
  | zero => exact .inr ⟨_, .zero _⟩
  | finite canonical => exact .inr ⟨_, .finite _ canonical⟩

/-- A float is less than another if it lies at a lesser place. -/
theorem lt_iff_exists_liesAt {number number' : Float} :
    number < number' ↔
      ∃ place place', LiesAt number place ∧ LiesAt number' place' ∧ place < place' := by
  have isCompared : number < number' ↔
      number.toModel.unpack.compare number'.toModel.unpack = some .lt := by
    show decide (number.toModel < number'.toModel) = true ↔ _
    rw [decide_eq_true_eq]
    show (number.toModel.unpack.compare number'.toModel.unpack == some .lt) = true ↔ _
    exact beq_iff_eq
  rw [isCompared]
  constructor
  · intro less
    rcases exists_liesAt number with isNaN | ⟨place, lies⟩
    · rw [isNaN] at less
      cases less
    rcases exists_liesAt number' with isNaN' | ⟨place', lies'⟩
    · rw [isNaN'] at less
      generalize number.toModel.unpack = unpacked at less
      cases unpacked <;> cases less
    exact ⟨place, place', lies, lies', (Placed.compare_eq_lt_iff lies lies').mp less⟩
  · rintro ⟨place, place', lies, lies', less⟩
    exact (Placed.compare_eq_lt_iff lies lies').mpr less

/-! ### Floats in order -/

section

variable {number number' number'' : Float}

theorem float_lt_asymm (less : number < number') : ¬ number' < number := by
  intro greater
  obtain ⟨place, place', lies, lies', ordered⟩ := lt_iff_exists_liesAt.mp less
  obtain ⟨again', again, liesAgain', liesAgain, opposite⟩ := lt_iff_exists_liesAt.mp greater
  rw [lies.unique liesAgain, lies'.unique liesAgain'] at ordered
  exact ordered.asymm opposite

theorem float_lt_trans (less : number < number') (less' : number' < number'') :
    number < number'' := by
  obtain ⟨place, middle, lies, liesMiddle, ordered⟩ := lt_iff_exists_liesAt.mp less
  obtain ⟨middle', place', liesMiddle', lies', ordered'⟩ := lt_iff_exists_liesAt.mp less'
  rw [liesMiddle.unique liesMiddle'] at ordered
  exact lt_iff_exists_liesAt.mpr ⟨place, place', lies, lies', ordered.trans ordered'⟩

end

section

variable {number number' : Int64} (ordered : number ≤ number')

include ordered

/-- Integers become floats in their order. -/
theorem exists_liesAt_ofInt64 : ∃ place place', LiesAt (ofInt64 number) place ∧
    LiesAt (ofInt64 number') place' ∧ place ≤ place' := by
  obtain ⟨rounded, rounds, holds⟩ := exists_holds_ofInt64 number
  obtain ⟨rounded', rounds', holds'⟩ := exists_holds_ofInt64 number'
  exact ⟨rounded, rounded', Stands.placed holds, Stands.placed holds',
    rounds.mono rounds' (Int.cast_le.mpr (Int64.le_iff_toInt_le.mp ordered))⟩

theorem not_ofInt64_lt : ¬ ofInt64 number' < ofInt64 number := by
  intro less
  obtain ⟨place, place', lies, lies', inOrder⟩ := exists_liesAt_ofInt64 ordered
  obtain ⟨again', again, liesAgain', liesAgain, opposite⟩ := lt_iff_exists_liesAt.mp less
  rw [lies.unique liesAgain, lies'.unique liesAgain'] at inOrder
  exact inOrder.not_gt opposite

theorem ofInt64_lt_of_le {other : Float} (less : ofInt64 number' < other) :
    ofInt64 number < other := by
  obtain ⟨place, place', lies, lies', inOrder⟩ := exists_liesAt_ofInt64 ordered
  obtain ⟨again', above, liesAgain', liesAbove, below⟩ := lt_iff_exists_liesAt.mp less
  rw [lies'.unique liesAgain'] at inOrder
  exact lt_iff_exists_liesAt.mpr ⟨place, above, lies, liesAbove, inOrder.trans_lt below⟩

theorem lt_ofInt64_of_le {other : Float} (less : other < ofInt64 number) :
    other < ofInt64 number' := by
  obtain ⟨place, place', lies, lies', inOrder⟩ := exists_liesAt_ofInt64 ordered
  obtain ⟨below, again, liesBelow, liesAgain, above⟩ := lt_iff_exists_liesAt.mp less
  rw [lies.unique liesAgain] at inOrder
  exact lt_iff_exists_liesAt.mpr ⟨below, place', liesBelow, lies', above.trans_le inOrder⟩

end

end SlashScript.Decimal
