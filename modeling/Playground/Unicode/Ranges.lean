/-!
Sets of code points, as lists of ranges.
-/

namespace Playground.Unicode

/-- Whether a code point is in one of the ranges, each given by its first and its last member. -/
def isIn (ranges : List (Nat × Nat)) (n : Nat) : Bool :=
  ranges.any fun (first, last) => first ≤ n && n ≤ last

end Playground.Unicode
