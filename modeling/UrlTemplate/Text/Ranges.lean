/-! # Sets of characters given by ranges

A property of characters that a standard lists is kept as a list of ranges of
code points, in increasing order. `inRanges` looks a code point up.
-/

namespace UrlTemplate

/-- The code point lies in one of the ranges, whose ends belong to them. The
search ends at the first range that starts behind it. -/
def inRanges : List (Nat × Nat) → Nat → Bool
  | [], _ => false
  | (first, last) :: ranges, code =>
    if code < first then false else code ≤ last || inRanges ranges code

end UrlTemplate
