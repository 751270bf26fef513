/-!
# Tables of code points

A property of characters is given as a list of closed ranges of code points in ascending order.
-/

namespace BlockFlow.Text

/-- Closed ranges of code points. -/
abbrev Ranges := List (Nat × Nat)

/-- Whether a code point lies in one of the ranges. -/
def Ranges.contains (ranges : Ranges) (n : Nat) : Bool :=
  ranges.any fun range => range.1 ≤ n && n ≤ range.2

end BlockFlow.Text
