/-!
# Ranges of code points

A character class is given by the ranges of its members, both ends included.
-/

namespace ScopedExpr

/-- Ranges of code points, each given by its first and its last member. -/
abbrev CodeRanges := List (Nat × Nat)

def CodeRanges.contains (ranges : CodeRanges) (c : Char) : Bool :=
  ranges.any fun r => r.1 ≤ c.toNat && c.toNat ≤ r.2

end ScopedExpr
