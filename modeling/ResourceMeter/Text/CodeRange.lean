/-!
# Ranges of code points

A property of characters is given by the ranges of code points that have it. A table lists them in
ascending order, with both ends included, so a search ends at the first range that starts behind the
code point.
-/

namespace ResourceMeter.Text

/-- The code point lies in one of the ranges. -/
def inRanges : List (Nat × Nat) → Nat → Bool
  | [], _ => false
  | (first, last) :: ranges, code =>
    if code < first then false else code ≤ last || inRanges ranges code

end ResourceMeter.Text
