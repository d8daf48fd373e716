/-
The limit on nesting. Groups, repetitions, choices, sequences and sets with several members lie
within each other; a pattern is refused when more of them do so than the limit allows, and the
complaint is about the first part, from the outside in and from left to right, that lies too deep.
-/

import SlashScript.Pattern.Written

namespace SlashScript.Pattern

namespace WrittenSet

mutual

/-- The first part of a set that lies deeper than the levels that are left. -/
def tooDeep? : Nat → WrittenSet → Option Span
  | 0, union span _ => some span
  | 0, operation span _ _ _ => some span
  | 0, bracket span _ _ => some span
  | levels + 1, union _ members => anyTooDeep? levels members
  | levels + 1, operation _ _ left right =>
    (tooDeep? levels left).or (tooDeep? levels right)
  | levels + 1, bracket _ _ inside => tooDeep? levels inside
  | _, _ => none

/-- The first part of several sets that lies deeper than the levels that are left. -/
def anyTooDeep? : Nat → List WrittenSet → Option Span
  | _, [] => none
  | levels, set :: rest => (tooDeep? levels set).or (anyTooDeep? levels rest)

end

end WrittenSet

namespace Written

mutual

/-- The first part of a pattern that lies deeper than the levels that are left. -/
def tooDeep? : Nat → Written → Option Span
  | levels, set chars => chars.tooDeep? levels
  | 0, repetition span _ _ _ _ => some span
  | 0, group span _ _ => some span
  | 0, concat span _ => some span
  | 0, choice span _ => some span
  | levels + 1, repetition _ item _ _ _ => tooDeep? levels item
  | levels + 1, group _ _ inside => tooDeep? levels inside
  | levels + 1, concat _ items => anyTooDeep? levels items
  | levels + 1, choice _ alternatives => anyTooDeep? levels alternatives
  | _, _ => none

/-- The first part of several patterns that lies deeper than the levels that are left. -/
def anyTooDeep? : Nat → List Written → Option Span
  | _, [] => none
  | levels, part :: rest => (tooDeep? levels part).or (anyTooDeep? levels rest)

end

/-- The pattern itself, unless a part of it lies too deep. -/
def checkNesting (written : Written) : Except Complaint Written :=
  match written.tooDeep? nestingLimit with
  | some span => .error ⟨span, none, .nestingTooDeep⟩
  | none => .ok written

end Written

end SlashScript.Pattern
