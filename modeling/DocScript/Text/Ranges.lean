/-! # Sets of characters

A set of characters is a list of ranges of code points in ascending order.
-/

namespace DocScript.Text

/-- Ascending, disjoint ranges of code points, both ends included. -/
abbrev Ranges := List (Nat × Nat)

/-- The search stops at the first range that lies beyond the character. -/
def Ranges.contains : Ranges → Char → Bool
  | [], _ => false
  | (first, last) :: rest, c =>
    if c.toNat < first then false
    else decide (c.toNat ≤ last) || Ranges.contains rest c

end DocScript.Text
