/-!
# Sets of code points

A set of code points is written as the increasing list of the points where membership changes: the
first is the least member, the second the first code point after it that is no member, and so on.
-/

namespace RoutePattern

/-- A set of code points, as the increasing list of the points where membership changes. -/
abbrev CodeSet := List Nat

/-- Whether a code point is in a set. -/
def CodeSet.holds : CodeSet → Nat → Bool
  | [], _ => false
  | bound :: rest, n => bound ≤ n && !CodeSet.holds rest n

end RoutePattern
