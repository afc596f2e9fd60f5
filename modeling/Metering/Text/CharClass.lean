/-! # Classes of characters

A class of characters is given by the ranges of its code points.
-/

namespace Metering.Text

/-- A class of characters: inclusive ranges of code points. -/
structure CharClass where
  ranges : List (Nat × Nat)

/-- The code point lies in one of the ranges. -/
def CharClass.contains (k : CharClass) (c : Char) : Bool :=
  k.ranges.any fun r => r.1 ≤ c.toNat && c.toNat ≤ r.2

end Metering.Text
