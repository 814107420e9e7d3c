/-!
# Sets of characters

A set of characters is given by the ranges of their numbers, in ascending order.
-/

namespace ToolAgent.Text

/-- First and last character number of each range. -/
abbrev Ranges := List (Nat × Nat)

namespace Ranges

/-- Whether a number lies in one of the ranges. The first range that begins beyond it ends the
search. -/
def contains : Ranges → Nat → Bool
  | [], _ => false
  | (first, last) :: rest, n => first ≤ n && (n ≤ last || contains rest n)

end Ranges

end ToolAgent.Text
