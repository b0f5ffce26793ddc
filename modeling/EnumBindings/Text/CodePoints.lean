/-!
# Sets of code points

A set of code points is given by closed ranges in increasing order. Membership
stops at the first range above the code point.
-/

namespace EnumBindings.Text

/-- Membership of a code point in an increasing list of closed ranges. -/
def inRanges (code : Nat) : List (Nat × Nat) → Bool
  | [] => false
  | (low, high) :: rest => decide (low ≤ code) && (decide (code ≤ high) || inRanges code rest)

end EnumBindings.Text
