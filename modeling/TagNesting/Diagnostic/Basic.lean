import TagNesting.Span
import TagNesting.Text.Bytes

/-!
# Diagnostics

What there is to show about a place in a source: a message with a code, the spans it is
about, each with a label, and notes. A primary callout marks the fault itself and the
others what it has to do with.

Spans come from anywhere and need not fit the source. They are cut off at its end before
anything is done with them.

## Main definitions

* `Callout`: A span with its label.
* `Diagnostic`: A message about annotated places.
* `Span.clampedTo`: The part of a span that lies within a source of a given size.
-/

namespace TagNesting

/-- A span of a source with its label. -/
structure Callout where
  /-- The place. -/
  span : Span
  /-- What is said about the place. -/
  label : List Char
  /-- The place is where the fault lies. -/
  isPrimary : Bool
  deriving DecidableEq, Repr

/-- A message about annotated places in a source. -/
structure Diagnostic where
  /-- The code of the message. -/
  code : List Char
  /-- The message. -/
  message : List Char
  /-- The name of the source. -/
  path : List Char
  /-- The source. -/
  source : List Char
  /-- The places the message is about. -/
  callouts : List Callout
  /-- What is to be said besides. -/
  notes : List (List Char)
  deriving DecidableEq, Repr

/-- The bounds of a span, neither of them past the end of a source of the given size. -/
def Span.clampedTo (size : Nat) (s : Span) : Nat × Nat :=
  (min s.start.toNat size, min s.stop.toNat size)

end TagNesting
