import TagNesting.Diagnostic.Basic

/-!
# Span Bounds

The bounds of a span, computed without the 32-bit words they are held in. Both ends of
`ofBounds` and of `shift` are plain minima with the largest position, however the two
bounds stand to each other and however far they lie outside. The lengths behind them are
not so plain, and two spans with the same bounds can differ in theirs.

Where nothing saturates the lengths agree as well: `ofBounds_shift` says that a span moved
to the right is the span between the moved bounds. Where something does, it is the ends
that can be relied on. A span cut off at the end of a source has its ends in order and
within the source, whatever it was before.

## Theorems

* `start_ofBounds`, `stop_ofBounds`: The ends of a span between two bounds.
* `start_shift`, `stop_shift`: The ends of a span moved to the right.
* `ofBounds_shift`: A span that stays in range moves with its bounds.
* `bounds_ofBounds_shift`: The ends of a span that has been moved and stays in range.
* `shift_shift`: Moving a span in two steps.
* `length_shift`: The length of a span that stays in range.
* `clampedTo_ordered`: A span cut off at the end of a source.
* `bounds_clamped`: All ends are clamped, and none wraps around.
-/

namespace TagNesting

namespace Span

theorem start_le (s : Span) : s.start.toNat ≤ maxPosition := Nat.le_of_lt_succ s.start.toNat_lt

-- Each bound as a number: what it would be, or the largest position if that is less.
theorem toNat_stop (s : Span) :
    s.stop.toNat = min (s.start.toNat + s.length.toNat) maxPosition := toNat_saturate _

/-- The bounds of a span are in order, even where its length has run out of range. -/
theorem start_le_stop (s : Span) : s.start.toNat ≤ s.stop.toNat := by
  have := start_le s
  rw [toNat_stop]
  omega

theorem start_ofBounds (first last : Nat) :
    (ofBounds first last).start.toNat = min first maxPosition := toNat_saturate first

/-- A span between two bounds ends at the greater of them. A length that does not fit reaches
    to the largest position, and one that fits beside a start that does not is cut off there
    too. -/
theorem stop_ofBounds (first last : Nat) :
    (ofBounds first last).stop.toNat = min (max first last) maxPosition := by
  rw [toNat_stop, start_ofBounds]
  -- Where the length fits, the start beside it may still have been cut off.
  by_cases h : last - first ≤ maxPosition
  · simp only [ofBounds, if_pos h, toNat_saturate]
    omega
  · simp only [ofBounds, if_neg h, toNat_saturate]
    omega

/-- The start of a span that is moved is clamped to the largest position. -/
theorem start_shift (s : Span) (distance : Nat) :
    (s.shift distance).start.toNat = min (s.start.toNat + distance) maxPosition :=
  start_ofBounds _ _

/-- So is its end, whatever has become of the length. -/
theorem stop_shift (s : Span) (distance : Nat) :
    (s.shift distance).stop.toNat = min (s.stop.toNat + distance) maxPosition := by
  have := start_le_stop s
  rw [shift, stop_ofBounds, Nat.max_eq_right (by omega)]

/-- A span that stays in range moves with its bounds, its length included. -/
theorem ofBounds_shift {first last distance : Nat} (hle : first ≤ last)
    (hrange : last + distance ≤ maxPosition) :
    (ofBounds first last).shift distance = ofBounds (first + distance) (last + distance) := by
  rw [shift, start_ofBounds, stop_ofBounds, Nat.max_eq_right hle, Nat.min_eq_left (by omega),
    Nat.min_eq_left (by omega)]

/-- A span that stays in range is moved without any clamping. -/
theorem bounds_ofBounds_shift {first last distance : Nat} (hle : first ≤ last)
    (hrange : last + distance ≤ maxPosition) :
    ((ofBounds first last).shift distance).start.toNat = first + distance ∧
      ((ofBounds first last).shift distance).stop.toNat = last + distance := by
  rw [ofBounds_shift hle hrange, start_ofBounds, stop_ofBounds]
  omega

/-- Two moves in range come to the same span as one. -/
theorem shift_shift {s : Span} {distance more : Nat}
    (hrange : s.stop.toNat + distance + more ≤ maxPosition) :
    s.shift (distance + more) = (s.shift distance).shift more := by
  have hle := start_le_stop s
  change ofBounds (s.start.toNat + (distance + more)) (s.stop.toNat + (distance + more))
    = ofBounds ((s.shift distance).start.toNat + more) ((s.shift distance).stop.toNat + more)
  rw [start_shift, stop_shift, Nat.min_eq_left (by omega), Nat.min_eq_left (by omega),
    Nat.add_assoc, Nat.add_assoc]

/-- The ends of a span that has been moved in two steps are those of the span moved at once, be
    they cut off or not. -/
theorem bounds_shift_shift (s : Span) (distance more : Nat) :
    ((s.shift distance).shift more).start = (s.shift (distance + more)).start ∧
      ((s.shift distance).shift more).stop = (s.shift (distance + more)).stop := by
  constructor
  · rw [← UInt32.toNat_inj, start_shift, start_shift, start_shift]
    omega
  · rw [← UInt32.toNat_inj, stop_shift, stop_shift, stop_shift]
    omega

theorem length_shift {s : Span} {distance : Nat}
    (hrange : s.start.toNat + s.length.toNat + distance ≤ maxPosition) :
    (s.shift distance).length = s.length := by
  have hstop : s.stop.toNat = s.start.toNat + s.length.toNat := by
    rw [toNat_stop]
    omega
  -- The distance cancels, and what is left fits, being the length of a span.
  have hlength : s.stop.toNat + distance - (s.start.toNat + distance) = s.length.toNat := by
    omega
  rw [← UInt32.toNat_inj, shift, ofBounds]
  simp only [hlength]
  rw [if_pos (by omega), toNat_saturate]
  omega

/-- The part of a span within a source has its ends in order, and both of them within. -/
theorem clampedTo_ordered (s : Span) (size : Nat) :
    (s.clampedTo size).1 ≤ (s.clampedTo size).2 ∧ (s.clampedTo size).2 ≤ size := by
  have := start_le_stop s
  simp only [clampedTo]
  omega

/-- All ends of spans are clamped to the largest position and none wraps around, whether a span is
    made from two bounds or moved, at once or in two steps. Lengths agree with them as long as
    the span stays in range, and only so long: a span moved in two steps can come to have
    another length than the same span moved at once. What is shown of a span is within the
    source, and its ends are in order. -/
theorem bounds_clamped (s : Span) (first last distance more : Nat) (source : List Char) :
    ((ofBounds first last).start.toNat = min first maxPosition ∧
        (ofBounds first last).stop.toNat = min (max first last) maxPosition) ∧
      ((s.shift distance).start.toNat = min (s.start.toNat + distance) maxPosition ∧
        (s.shift distance).stop.toNat = min (s.stop.toNat + distance) maxPosition) ∧
      (((s.shift distance).shift more).start = (s.shift (distance + more)).start ∧
        ((s.shift distance).shift more).stop = (s.shift (distance + more)).stop) ∧
      (s.start.toNat + s.length.toNat + distance ≤ maxPosition →
        (s.shift distance).length = s.length) ∧
      ((∃ (other : Span) (distance more : Nat),
          ((other.shift distance).shift more).length ≠ (other.shift (distance + more)).length) ∧
        (s.stop.toNat + distance + more ≤ maxPosition →
          (s.shift distance).shift more = s.shift (distance + more))) ∧
      (s.clampedTo (byteLength source)).1 ≤ (s.clampedTo (byteLength source)).2 ∧
      (s.clampedTo (byteLength source)).2 ≤ byteLength source := by
  refine ⟨⟨start_ofBounds first last, stop_ofBounds first last⟩,
    ⟨start_shift s distance, stop_shift s distance⟩, bounds_shift_shift s distance more,
    length_shift, ⟨?_, fun hrange => (shift_shift hrange).symm⟩, clampedTo_ordered s _⟩
  -- The first move leaves both ends at the largest position, and the second takes the length.
  exact ⟨⟨4294967290, 5⟩, 10, 10, by decide⟩

/-- A span that two moves bring right up to the largest position, in a source that it lies far
    behind. -/
theorem bounds_clamped_to_the_end :
    (⟨4294967280, 9⟩ : Span).start.toNat + (⟨4294967280, 9⟩ : Span).length.toNat + 4
        ≤ maxPosition ∧
      ((⟨4294967280, 9⟩ : Span).shift 4).length = 9 ∧
      (⟨4294967280, 9⟩ : Span).stop.toNat + 4 + 2 ≤ maxPosition ∧
      ((⟨4294967280, 9⟩ : Span).shift 4).shift 2 = ⟨4294967286, 9⟩ ∧
      (⟨4294967280, 9⟩ : Span).clampedTo (byteLength "</é>".toList) = (5, 5) := by
  have hlength : (⟨4294967280, 9⟩ : Span).start.toNat + (⟨4294967280, 9⟩ : Span).length.toNat + 4
      ≤ maxPosition := by decide
  have hstop : (⟨4294967280, 9⟩ : Span).stop.toNat + 4 + 2 ≤ maxPosition := by decide
  rcases bounds_clamped ⟨4294967280, 9⟩ 0 0 4 2 "</é>".toList
    with ⟨_, _, _, hkept, ⟨_, hmoves⟩, _⟩
  exact ⟨hlength, hkept hlength, hstop, (hmoves hstop).trans (by decide), by decide⟩

end Span

end TagNesting
