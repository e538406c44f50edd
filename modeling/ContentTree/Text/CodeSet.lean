/-!
Sets of characters given by their boundaries: the set holds the code points from the first
boundary up to the second, from the third up to the fourth, and so on.
-/

set_option autoImplicit false
set_option relaxedAutoImplicit false

namespace ContentTree.Text

/-- An ascending sequence of boundaries; every second one, counted from the first, opens a run
of members and the next one closes it. -/
structure CodeSet where
  boundaries : Array Nat

namespace CodeSet

/-- The number of boundaries at or below `code`, known to be between `low` and `high`. -/
def countUpTo (boundaries : Array Nat) (code : Nat) : Nat → Nat → Nat → Nat
  | 0, low, _ => low
  | fuel + 1, low, high =>
    if low < high then
      let middle := (low + high) / 2
      if boundaries.getD middle 0 ≤ code then countUpTo boundaries code fuel (middle + 1) high
      else countUpTo boundaries code fuel low middle
    else low

/-- Membership: an odd number of boundaries lies at or below the character. -/
def contains (set : CodeSet) (c : Char) : Bool :=
  countUpTo set.boundaries c.toNat 32 0 set.boundaries.size % 2 == 1

end CodeSet

end ContentTree.Text
