/-!
# Sets of characters

A property of characters is given by the closed ranges of code points that have it. The tables of this
library (`Printable`, `LetterCase`, `NameChar`) are values of this type.
-/

namespace GraphLift.Text

/-- A set of characters, written as closed ranges of code points. -/
structure CharRanges where
  ranges : List (Nat × Nat)

/-- The character lies in one of the ranges. -/
def CharRanges.contains (r : CharRanges) (c : Char) : Bool :=
  r.ranges.any fun p => p.1 ≤ c.toNat && c.toNat ≤ p.2

end GraphLift.Text
