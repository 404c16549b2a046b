/-!
# Sets of characters

A `CharSet` is given by closed ranges of code points, the way character properties are
published. Membership is the only question asked of it.
-/

namespace CallPath.Text

/-- A set of characters, as closed ranges of code points. -/
structure CharSet where
  /-- The ranges, first and last code point of each, in ascending order. -/
  ranges : List (Nat × Nat)

/-- Whether the character lies in one of the ranges. -/
def CharSet.contains (s : CharSet) (c : Char) : Bool :=
  s.ranges.any fun r => r.1 ≤ c.toNat && c.toNat ≤ r.2

end CallPath.Text
