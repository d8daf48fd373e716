/-
Stretches of code points. A property of characters is stored as the stretches that have it,
so that a table of the whole character set stays short enough to read and to search.
-/

namespace SlashScript.Text

/-- Every `step`-th code point from `first` to `last`. -/
structure Stretch where
  first : Nat
  last : Nat
  step : Nat

namespace Stretch

/-- A code point lies on a stretch when it is between its ends and a whole number of steps
from its start. -/
def contains (stretch : Stretch) (code : Nat) : Bool :=
  stretch.first ≤ code && code ≤ stretch.last && (code - stretch.first) % stretch.step == 0

end Stretch

/-- Membership in one of a list of stretches. -/
def onStretch (stretches : List Stretch) (char : Char) : Bool :=
  stretches.any fun stretch => stretch.contains char.toNat

end SlashScript.Text
