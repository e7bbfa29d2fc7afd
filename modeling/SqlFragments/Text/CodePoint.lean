/-!
# Code point ranges

Character classes beyond ASCII are given as lists of closed ranges of code points.  This file
holds the membership test that every class shares.

* `CodePoint.inRanges`: whether a character lies in one of the ranges of a list
-/

namespace SqlFragments

/-- A character lies in a list of closed ranges when one of them encloses its code point. -/
def CodePoint.inRanges (ranges : List (Nat × Nat)) (c : Char) : Bool :=
  ranges.any fun r => r.1 ≤ c.toNat && c.toNat ≤ r.2

end SqlFragments
