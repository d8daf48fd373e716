/-
This file says what the least and the greatest of some values are. They are found by going through
the values once, and one that was passed over is not looked at again. The result is one of the
values, and no other goes beyond it, unless a text stands between two numbers in such a way that the
comparison is not transitive; and every such text can lead the search astray.
-/

import SlashScript.Proofs.Comparison
import SlashScript.Proofs.Sizes

namespace SlashScript

namespace Builtin

open Value

/-! ### The search -/

theorem extreme_cons (direction : Ordering) (first second : Value) (others : List Value) :
    extreme direction first (second :: others) =
      extreme direction (if second.order first = direction then second else first) others :=
  rfl

theorem extreme_append (direction : Ordering) (first : Value) (before after : List Value) :
    extreme direction first (before ++ after) =
      extreme direction (extreme direction first before) after :=
  List.foldl_append

section

variable {direction : Ordering} {value first : Value} {others : List Value}

/-- A value that does not go beyond the first one, but beyond the last of those that were taken for
the best, goes beyond one of them and not beyond the one before it. -/
theorem exists_overtaken (notBeyond : value.order first ≠ direction)
    (beyond : value.order (extreme direction first others) = direction) :
    ∃ lower ∈ first :: others, ∃ upper ∈ first :: others, value.order lower ≠ direction ∧
      upper.order lower = direction ∧ value.order upper = direction := by
  induction others generalizing first with
  | nil => exact absurd beyond notBeyond
  | cons second others inductionHypothesis =>
    rw [extreme_cons] at beyond
    by_cases better : second.order first = direction
    · rw [if_pos better] at beyond
      by_cases overtakes : value.order second = direction
      · exact ⟨first, List.mem_cons_self, second, List.mem_cons_of_mem _ List.mem_cons_self,
          notBeyond, better, overtakes⟩
      · obtain ⟨lower, member, upper, member', step⟩ := inductionHypothesis overtakes beyond
        exact ⟨lower, List.mem_cons_of_mem _ member, upper, List.mem_cons_of_mem _ member', step⟩
    · rw [if_neg better] at beyond
      obtain ⟨lower, member, upper, member', step⟩ := inductionHypothesis notBeyond beyond
      have among := List.cons_subset_cons first (List.subset_cons_self second others)
      exact ⟨lower, among member, upper, among member', step⟩

/-- When a value was looked at, the best one was the value itself or one that it did not go
beyond. -/
theorem exists_overtaken_of_mem (irreflexive : value.order value ≠ direction)
    (member : value ∈ first :: others)
    (beyond : value.order (extreme direction first others) = direction) :
    ∃ lower ∈ first :: others, ∃ upper ∈ first :: others, value.order lower ≠ direction ∧
      upper.order lower = direction ∧ value.order upper = direction := by
  rcases List.mem_cons.mp member with rfl | member
  · exact exists_overtaken irreflexive beyond
  · obtain ⟨before, after, rfl⟩ := List.append_of_mem member
    have best := extreme_mem direction first before
    rw [extreme_append, extreme_cons] at beyond
    generalize extreme direction first before = incumbent at best beyond
    have among : before ++ value :: after ⊆ first :: (before ++ value :: after) :=
      List.subset_cons_self ..
    split at beyond
    · obtain ⟨lower, isLower, upper, isUpper, step⟩ := exists_overtaken irreflexive beyond
      have later : value :: after ⊆ before ++ value :: after := List.subset_append_right ..
      exact ⟨lower, among (later isLower), upper, among (later isUpper), step⟩
    · rename_i notBeyond
      obtain ⟨lower, isLower, upper, isUpper, step⟩ := exists_overtaken notBeyond beyond
      have later : incumbent :: after ⊆ first :: (before ++ value :: after) := by
        intro other isOther
        rcases List.mem_cons.mp isOther with rfl | isOther
        · exact List.cons_subset_cons first (List.subset_append_left ..) best
        · exact among (List.mem_append_right _ (List.mem_cons_of_mem _ isOther))
      exact ⟨lower, later isLower, upper, later isUpper, step⟩

end

/-! ### Values that are passed over -/

section

variable {value first : Value} {others : List Value} (member : value ∈ first :: others)

include member

/-- Only among tangled values can one be less than the least that is found. -/
theorem hasTangle_of_lt_extreme (less : value.order (extreme .lt first others) = .lt) :
    HasTangle (first :: others) := by
  obtain ⟨lower, isLower, upper, isUpper, notLess, better, overtakes⟩ :=
    exists_overtaken_of_mem (order_self_ne_lt value) member less
  exact hasTangle_of_not_trans member isUpper isLower overtakes better notLess

theorem hasTangle_of_extreme_lt (greater : value.order (extreme .gt first others) = .gt) :
    HasTangle (first :: others) := by
  have irreflexive : value.order value ≠ .gt :=
    mt (order_eq_gt_iff value value).mp (order_self_ne_lt value)
  obtain ⟨lower, isLower, upper, isUpper, notGreater, better, overtakes⟩ :=
    exists_overtaken_of_mem irreflexive member greater
  rw [order_eq_gt_iff] at better overtakes
  rw [Ne, order_eq_gt_iff] at notGreater
  exact hasTangle_of_not_trans isLower isUpper member better overtakes notGreater

end

section

variable {above below between : Value} (tangled : Tangled above below between)

include tangled

/-- The text is taken for the greatest if the lesser number comes first. -/
theorem extreme_gt_of_tangled : extreme .gt below [above, between] = between := by
  rw [extreme_cons, if_neg tangled.order, extreme_cons,
    if_pos ((order_eq_gt_iff between below).mpr tangled.less)]
  rfl

theorem extreme_lt_of_tangled : extreme .lt above [below, between] = between := by
  rw [extreme_cons, if_neg (mt (order_eq_gt_iff above below).mpr tangled.order), extreme_cons,
    if_pos ((order_eq_gt_iff above between).mp tangled.greater)]
  rfl

end

/-! ### Least and greatest -/

/-- A dash comes before the point of the decimal place, so that this text stands between the texts
of two equal numbers. -/
theorem tangled_one_dash : Tangled (.real 1.0) (.integer 1) (.text "1-") where
  numeric_above := by decide +kernel
  numeric_below := by decide +kernel
  word := by decide +kernel
  texts_below := by decide +kernel
  texts_above := by decide +kernel
  order := by decide +kernel

end Builtin

end SlashScript
