/-
Sets of code points. A set is the list of the code points at which membership changes, in
ascending order: the code points before the first change are outside, those from the first to
before the second are inside, and so on. Union, intersection and difference are one merge of two
such lists; the main statement is that the merge decides membership point by point.
-/

import SlashScript.Text.Stretch

namespace SlashScript.Text

/-! ### Lists of changes -/

/-- Membership of a code point, from the membership before the first of some changes on. -/
def insideAfter (inside : Bool) (code : Nat) : List Nat → Bool
  | [] => inside
  | change :: rest => if code < change then inside else insideAfter (!inside) code rest

/-- Keeps a change if membership really changes there. -/
def keepChange (change : Nat) (before after : Bool) (rest : List Nat) : List Nat :=
  if before = after then rest else change :: rest

/-- The changes of a combination of two sets, from the memberships before their first changes
on. -/
def combineChanges (operation : Bool → Bool → Bool) (inLeft inRight : Bool) :
    List Nat → List Nat → List Nat
  | [], [] => []
  | change :: left, [] =>
    keepChange change (operation inLeft inRight) (operation (!inLeft) inRight)
      (combineChanges operation (!inLeft) inRight left [])
  | [], change :: right =>
    keepChange change (operation inLeft inRight) (operation inLeft (!inRight))
      (combineChanges operation inLeft (!inRight) [] right)
  | change :: left, other :: right =>
    if change < other then
      keepChange change (operation inLeft inRight) (operation (!inLeft) inRight)
        (combineChanges operation (!inLeft) inRight left (other :: right))
    else if other < change then
      keepChange other (operation inLeft inRight) (operation inLeft (!inRight))
        (combineChanges operation inLeft (!inRight) (change :: left) right)
    else
      keepChange change (operation inLeft inRight) (operation (!inLeft) (!inRight))
        (combineChanges operation (!inLeft) (!inRight) left right)
  termination_by left right => left.length + right.length

/-- Changes in ascending order. -/
abbrev Ascending (changes : List Nat) : Prop :=
  changes.Pairwise (· < ·)

theorem insideAfter_of_lt (inside : Bool) (code : Nat) (changes : List Nat)
    (later : ∀ change ∈ changes, code < change) : insideAfter inside code changes = inside := by
  cases changes with
  | nil => rfl
  | cons change rest => simp [insideAfter, later change List.mem_cons_self]

theorem mem_keepChange (change : Nat) (before after : Bool) (rest : List Nat) (code : Nat)
    (member : code ∈ keepChange change before after rest) : code = change ∨ code ∈ rest := by
  unfold keepChange at member
  split at member
  · exact .inr member
  · exact List.mem_cons.mp member

theorem mem_combineChanges (operation : Bool → Bool → Bool) (inLeft inRight : Bool)
    (left right : List Nat) (code : Nat)
    (member : code ∈ combineChanges operation inLeft inRight left right) :
    code ∈ left ∨ code ∈ right := by
  fun_induction combineChanges operation inLeft inRight left right <;>
    first
    | simp at member
    | (rcases mem_keepChange _ _ _ _ _ member with same | rest
       · simp_all
       · grind)

theorem lt_of_mem_combineChanges (operation : Bool → Bool → Bool) (inLeft inRight : Bool)
    (left right : List Nat) (bound : Nat) (laterLeft : ∀ code ∈ left, bound < code)
    (laterRight : ∀ code ∈ right, bound < code) :
    ∀ code ∈ combineChanges operation inLeft inRight left right, bound < code :=
  fun code member =>
    (mem_combineChanges _ _ _ _ _ _ member).elim (laterLeft code) (laterRight code)

theorem lt_of_ascending_cons (bound change : Nat) (rest : List Nat) (less : bound < change)
    (ascending : Ascending (change :: rest)) : ∀ code ∈ change :: rest, bound < code := by
  intro code member
  rcases List.mem_cons.mp member with same | later
  · exact same ▸ less
  · exact Nat.lt_trans less ((List.pairwise_cons.mp ascending).1 code later)

theorem ascending_keepChange (change : Nat) (before after : Bool) (rest : List Nat)
    (later : ∀ code ∈ rest, change < code) (ascending : Ascending rest) :
    Ascending (keepChange change before after rest) := by
  unfold keepChange
  split
  · exact ascending
  · exact List.pairwise_cons.mpr ⟨later, ascending⟩

theorem ascending_combineChanges (operation : Bool → Bool → Bool) (inLeft inRight : Bool)
    (left right : List Nat) (ascendingLeft : Ascending left) (ascendingRight : Ascending right) :
    Ascending (combineChanges operation inLeft inRight left right) := by
  fun_induction combineChanges operation inLeft inRight left right with
  | case1 => exact List.Pairwise.nil
  | case2 inLeft inRight change left inductionHypothesis =>
    have parts := List.pairwise_cons.mp ascendingLeft
    exact ascending_keepChange _ _ _ _ (lt_of_mem_combineChanges _ _ _ _ _ _ parts.1 (by simp))
      (inductionHypothesis parts.2 ascendingRight)
  | case3 inLeft inRight change right inductionHypothesis =>
    have parts := List.pairwise_cons.mp ascendingRight
    exact ascending_keepChange _ _ _ _ (lt_of_mem_combineChanges _ _ _ _ _ _ (by simp) parts.1)
      (inductionHypothesis ascendingLeft parts.2)
  | case4 inLeft inRight change left other right less inductionHypothesis =>
    have parts := List.pairwise_cons.mp ascendingLeft
    exact ascending_keepChange _ _ _ _
      (lt_of_mem_combineChanges _ _ _ _ _ _ parts.1
        (lt_of_ascending_cons _ _ _ less ascendingRight))
      (inductionHypothesis parts.2 ascendingRight)
  | case5 inLeft inRight change left other right _ less inductionHypothesis =>
    have parts := List.pairwise_cons.mp ascendingRight
    exact ascending_keepChange _ _ _ _
      (lt_of_mem_combineChanges _ _ _ _ _ _ (lt_of_ascending_cons _ _ _ less ascendingLeft)
        parts.1)
      (inductionHypothesis ascendingLeft parts.2)
  | case6 inLeft inRight change left other right notLess notGreater inductionHypothesis =>
    have partsLeft := List.pairwise_cons.mp ascendingLeft
    have partsRight := List.pairwise_cons.mp ascendingRight
    obtain rfl : change = other := by omega
    exact ascending_keepChange _ _ _ _
      (lt_of_mem_combineChanges _ _ _ _ _ _ partsLeft.1 partsRight.1)
      (inductionHypothesis partsLeft.2 partsRight.2)

theorem insideAfter_keepChange (change code : Nat) (before after : Bool) (rest : List Nat)
    (later : ∀ other ∈ rest, change < other) :
    insideAfter before code (keepChange change before after rest) =
      if code < change then before else insideAfter after code rest := by
  unfold keepChange
  by_cases same : before = after
  · subst same
    by_cases less : code < change
    · have beyond : ∀ other ∈ rest, code < other :=
        fun other member => Nat.lt_trans less (later other member)
      simp [less, insideAfter_of_lt _ _ _ beyond]
    · simp [less]
  · have flipped : (!before) = after := by revert same; cases before <;> cases after <;> simp
    simp [same, insideAfter, flipped]

/-- The merge decides membership point by point. -/
theorem insideAfter_combineChanges (operation : Bool → Bool → Bool) (inLeft inRight : Bool)
    (left right : List Nat) (code : Nat) (ascendingLeft : Ascending left)
    (ascendingRight : Ascending right) :
    insideAfter (operation inLeft inRight) code
        (combineChanges operation inLeft inRight left right) =
      operation (insideAfter inLeft code left) (insideAfter inRight code right) := by
  fun_induction combineChanges operation inLeft inRight left right with
  | case1 => rfl
  | case2 inLeft inRight change left inductionHypothesis =>
    have parts := List.pairwise_cons.mp ascendingLeft
    rw [insideAfter_keepChange _ _ _ _ _
      (lt_of_mem_combineChanges _ _ _ _ _ _ parts.1 (by simp)),
      inductionHypothesis parts.2 ascendingRight]
    by_cases less : code < change <;> simp [insideAfter, less]
  | case3 inLeft inRight change right inductionHypothesis =>
    have parts := List.pairwise_cons.mp ascendingRight
    rw [insideAfter_keepChange _ _ _ _ _
      (lt_of_mem_combineChanges _ _ _ _ _ _ (by simp) parts.1),
      inductionHypothesis ascendingLeft parts.2]
    by_cases less : code < change <;> simp [insideAfter, less]
  | case4 inLeft inRight change left other right less inductionHypothesis =>
    have parts := List.pairwise_cons.mp ascendingLeft
    have laterRight := lt_of_ascending_cons _ _ _ less ascendingRight
    rw [insideAfter_keepChange _ _ _ _ _
      (lt_of_mem_combineChanges _ _ _ _ _ _ parts.1 laterRight),
      inductionHypothesis parts.2 ascendingRight]
    by_cases before : code < change
    · have beyond : ∀ later ∈ other :: right, code < later :=
        fun later member => Nat.lt_trans before (laterRight later member)
      rw [insideAfter_of_lt _ _ _ beyond]
      simp [insideAfter, before]
    · rw [if_neg before, insideAfter.eq_2 inLeft, if_neg before]
  | case5 inLeft inRight change left other right _ less inductionHypothesis =>
    have parts := List.pairwise_cons.mp ascendingRight
    have laterLeft := lt_of_ascending_cons _ _ _ less ascendingLeft
    rw [insideAfter_keepChange _ _ _ _ _
      (lt_of_mem_combineChanges _ _ _ _ _ _ laterLeft parts.1),
      inductionHypothesis ascendingLeft parts.2]
    by_cases before : code < other
    · have beyond : ∀ later ∈ change :: left, code < later :=
        fun later member => Nat.lt_trans before (laterLeft later member)
      rw [insideAfter_of_lt _ _ _ beyond]
      simp [insideAfter, before]
    · rw [if_neg before, insideAfter.eq_2 inRight, if_neg before]
  | case6 inLeft inRight change left other right notLess notGreater inductionHypothesis =>
    have partsLeft := List.pairwise_cons.mp ascendingLeft
    have partsRight := List.pairwise_cons.mp ascendingRight
    obtain rfl : change = other := by omega
    rw [insideAfter_keepChange _ _ _ _ _
      (lt_of_mem_combineChanges _ _ _ _ _ _ partsLeft.1 partsRight.1),
      inductionHypothesis partsLeft.2 partsRight.2]
    by_cases before : code < change <;> simp [insideAfter, before]

/-! ### Sets -/

/-- A set of code points, as the ascending list of the places where membership changes. -/
structure CodeSet where
  changes : List Nat
  ascending : Ascending changes
deriving DecidableEq

namespace CodeSet

/-- Membership of a code point. -/
def contains (set : CodeSet) (code : Nat) : Bool :=
  insideAfter false code set.changes

/-- Membership of a character. -/
def holds (set : CodeSet) (char : Char) : Bool :=
  set.contains char.toNat

/-- No code point. -/
def empty : CodeSet := ⟨[], List.Pairwise.nil⟩

theorem ascending_pair {first last : Nat} (inOrder : first ≤ last) :
    Ascending [first, last + 1] := by
  simp
  omega

/-- The code points from one to another, both included. -/
def range (first last : Nat) : CodeSet :=
  if inOrder : first ≤ last then ⟨[first, last + 1], ascending_pair inOrder⟩ else empty

/-- One code point. -/
def single (code : Nat) : CodeSet := range code code

/-- The code points of characters. -/
def all : CodeSet := ⟨[0, 0xD800, 0xE000, 0x110000], by decide⟩

/-- The combination of two sets by an operation on membership that leaves out what is in
neither. -/
def combine (operation : Bool → Bool → Bool) (left right : CodeSet) : CodeSet :=
  ⟨combineChanges operation false false left.changes right.changes,
    ascending_combineChanges _ _ _ _ _ left.ascending right.ascending⟩

/-- The code points of either of two sets. -/
def union : CodeSet → CodeSet → CodeSet := combine (· || ·)

/-- The code points of both of two sets. -/
def intersection : CodeSet → CodeSet → CodeSet := combine (· && ·)

/-- The code points of a set that are not in another. -/
def difference : CodeSet → CodeSet → CodeSet := combine fun inLeft inRight => inLeft && !inRight

/-- The code points of exactly one of two sets. -/
def symmetricDifference : CodeSet → CodeSet → CodeSet := combine (· != ·)

theorem contains_combine (operation : Bool → Bool → Bool) (left right : CodeSet) (code : Nat)
    (neither : operation false false = false) :
    (combine operation left right).contains code =
      operation (left.contains code) (right.contains code) := by
  have merged := insideAfter_combineChanges operation false false left.changes right.changes code
    left.ascending right.ascending
  rw [neither] at merged
  exact merged

@[simp]
theorem contains_empty (code : Nat) : empty.contains code = false := rfl

@[simp]
theorem contains_union (left right : CodeSet) (code : Nat) :
    (left.union right).contains code = (left.contains code || right.contains code) :=
  contains_combine _ left right code rfl

@[simp]
theorem contains_intersection (left right : CodeSet) (code : Nat) :
    (left.intersection right).contains code = (left.contains code && right.contains code) :=
  contains_combine _ left right code rfl

@[simp]
theorem contains_difference (left right : CodeSet) (code : Nat) :
    (left.difference right).contains code = (left.contains code && !right.contains code) :=
  contains_combine _ left right code rfl

@[simp]
theorem contains_range (first last code : Nat) :
    (range first last).contains code = (decide (first ≤ code) && decide (code ≤ last)) := by
  unfold range
  split
  · simp only [contains, insideAfter]
    grind
  · simp only [contains_empty]
    grind

/-! ### Several sets together -/

/-- The unions of neighbouring sets. -/
def unionPairs : List CodeSet → List CodeSet
  | first :: second :: rest => first.union second :: unionPairs rest
  | rest => rest

theorem length_unionPairs_le (sets : List CodeSet) : (unionPairs sets).length ≤ sets.length := by
  fun_induction unionPairs sets with
  | case1 first second rest inductionHypothesis =>
    simp only [List.length_cons]
    omega
  | case2 => exact Nat.le_refl _

/-- The code points of any of several sets. Neighbours are joined first, so that no set takes part
in more than a few unions. -/
def unionAll : List CodeSet → CodeSet
  | [] => empty
  | [set] => set
  | first :: second :: rest => unionAll (unionPairs (first :: second :: rest))
  termination_by sets => sets.length
  decreasing_by
    have shorter := length_unionPairs_le rest
    simp only [unionPairs, List.length_cons]
    omega

@[simp]
theorem contains_unionPairs (sets : List CodeSet) (code : Nat) :
    ((unionPairs sets).any fun set => set.contains code) =
      sets.any fun set => set.contains code := by
  fun_induction unionPairs sets with
  | case1 first second rest inductionHypothesis => simp [inductionHypothesis, Bool.or_assoc]
  | case2 => rfl

@[simp]
theorem contains_unionAll (sets : List CodeSet) (code : Nat) :
    (unionAll sets).contains code = sets.any fun set => set.contains code := by
  fun_induction unionAll sets with
  | case1 => rfl
  | case2 set => simp
  | case3 first second rest inductionHypothesis => rw [inductionHypothesis, contains_unionPairs]

/-- The code points on a stretch. -/
def ofStretch (stretch : Stretch) : CodeSet :=
  if stretch.step = 1 then range stretch.first stretch.last
  else
    unionAll ((List.range ((stretch.last - stretch.first) / stretch.step + 1)).map fun index =>
      single (stretch.first + index * stretch.step))

/-- The code points on any of several stretches. -/
def ofStretches (stretches : List Stretch) : CodeSet :=
  unionAll (stretches.map ofStretch)

/-! ### Runs of code points -/

/-- The first and last code points of the unbroken runs that some changes delimit. -/
def runsOf : List Nat → List (Nat × Nat)
  | first :: stop :: rest => (first, stop - 1) :: runsOf rest
  | _ => []

/-- The first and last code points of the unbroken runs of a set. -/
def runs (set : CodeSet) : List (Nat × Nat) :=
  runsOf set.changes

/-- The set with every code point moved by one distance. -/
def moved (set : CodeSet) (distance : Int) : CodeSet :=
  unionAll (set.runs.map fun (first, last) =>
    range (first + distance).toNat (last + distance).toNat)

end CodeSet
end SlashScript.Text
