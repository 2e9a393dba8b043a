/-!
# Spans

A range of bytes in a source, held as a start and a length of 32 bits each. Both saturate:
a bound past the largest position stands for that position, so a span never wraps around
to the front of the source.

Start and length saturate separately, and the end is computed from the two. A length that
fits is kept even when the start beside it does not, which is why two spans with the same
bounds may still differ: their lengths may.

## Main definitions

* `maxPosition`: The largest position a span can hold.
* `saturate`: A position brought into range.
* `Span`: A start and a length.
* `Span.stop`: The position just past the span.
* `Span.ofBounds`: The span between two positions.
* `Span.shift`: The span moved to the right.

## Theorems

* `toNat_saturate`: A saturated position is the lesser of the position and the largest one.
-/

namespace TagNesting

/-- The largest position a span can hold. -/
def maxPosition : Nat := 4294967295

/-- A position brought into range. -/
def saturate (n : Nat) : UInt32 := UInt32.ofNat (min n maxPosition)

/-- A saturated position is the lesser of the position and the largest one, so saturating
    loses nothing below the bound. -/
@[simp] theorem toNat_saturate (n : Nat) : (saturate n).toNat = min n maxPosition := by
  rw [saturate, UInt32.toNat_ofNat']
  have h : min n maxPosition < 2 ^ 32 :=
    Nat.lt_of_le_of_lt (Nat.min_le_right n maxPosition) (by decide)
  exact Nat.mod_eq_of_lt h

/-- A range of bytes in a source. -/
structure Span where
  /-- The position of the first byte. -/
  start : UInt32
  /-- The number of bytes. -/
  length : UInt32
  deriving DecidableEq, Repr

namespace Span

/-- The position just past the span, which saturates like every other. -/
def stop (s : Span) : UInt32 := saturate (s.start.toNat + s.length.toNat)

/-- The span from `first` to just before `last`, empty if the two are inverted. A length that
    does not fit reaches to the largest position instead. -/
def ofBounds (first last : Nat) : Span :=
  let start := saturate first
  let length := last - first
  { start := start
    length :=
      if length ≤ maxPosition then saturate length
      else saturate (maxPosition - start.toNat) }

/-- The span moved `distance` bytes to the right. -/
def shift (s : Span) (distance : Nat) : Span :=
  ofBounds (s.start.toNat + distance) (s.stop.toNat + distance)

end Span

end TagNesting
