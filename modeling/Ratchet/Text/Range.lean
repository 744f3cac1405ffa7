/-!
# Ranges of characters

A class of characters is written as a list of ranges of code points, both
ends included, in ascending order.
-/

namespace Ratchet.Text

/-- A range of code points, both ends included. -/
abbrev Range := Nat × Nat

/-- Whether a character lies in one of the ranges. -/
def inRanges (ranges : List Range) (c : Char) : Bool :=
  ranges.any fun r => r.1 ≤ c.toNat && c.toNat ≤ r.2

end Ratchet.Text
