/-!
# Code Point Ranges

Membership in a character class that a standard gives as a list of closed ranges. The
classes of this library that reach past ASCII, word characters and column widths, are all
read through `inRanges`, so that a table is plain data and its meaning is one function.

The ranges of a table are increasing, and the search relies on it: it stops at the first
range that begins above the code point, so a low code point costs a short walk however
long the table is.

## Main definitions

* `inRanges`: Some range of an increasing table holds the code point.
-/

namespace TagNesting

/-- Some range of the table holds the code point. The table is increasing, so the search ends
    at the first range that begins above it. -/
def inRanges : List (Nat × Nat) → Nat → Bool
  | [], _ => false
  | (low, high) :: rest, n =>
      if n < low then false
      else if n ≤ high then true
      else inRanges rest n

end TagNesting
