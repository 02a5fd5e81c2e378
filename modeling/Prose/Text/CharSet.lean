namespace Prose
namespace Text

/-!
# Sets of characters

A set of characters is a list of ranges of code points in ascending order.  Membership walks the
ranges and stops at the first one that ends at the code point or behind it.
-/

/-- A set of characters, given by disjoint ranges of code points in ascending order. -/
structure CharSet where
  ranges : List (Nat × Nat)

namespace CharSet

/-- Whether a code point lies in one of some ascending ranges. -/
def covers (n : Nat) : List (Nat × Nat) → Bool
  | [] => false
  | (lo, hi) :: rest => if hi < n then covers n rest else decide (lo ≤ n)

def contains (s : CharSet) (c : Char) : Bool := covers c.toNat s.ranges

end CharSet

end Text
end Prose
