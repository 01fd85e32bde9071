/-
# Ranges of code points

A property of characters is given by the closed ranges of the code points that have
it, in ascending order.
-/

namespace Parley.Text

/-- Whether a character lies in one of the ranges. -/
def inRanges (ranges : List (Nat × Nat)) (c : Char) : Bool :=
  ranges.any fun range => range.1 ≤ c.toNat && c.toNat ≤ range.2

end Parley.Text
