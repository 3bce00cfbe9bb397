/-!
# Ranges of code points

A class of characters is a list of inclusive ranges of code points in increasing order.
-/

namespace ElementMarkup.Text

/-- The first and the last code point of a range. -/
abbrev CodeRange := Nat × Nat

/-- The code point lies in one of the ranges. They increase, so the search ends at the first range
that starts beyond the code point. -/
def inRanges : List CodeRange → Nat → Bool
  | [], _ => false
  | (first, last) :: ranges, n =>
    if n < first then false else if n ≤ last then true else inRanges ranges n

end ElementMarkup.Text
