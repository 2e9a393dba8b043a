/-!
# The Window on a Wide Source

Which columns of the source are shown when a line is wider than the screen. Lines that fit
are shown in full. Otherwise the window is one screen wide and placed, in this order of
preference, so that only leading white space is cut off, so that the marks and their labels
are seen, so that the marks are seen; failing all of them it runs from the first mark to
the last, however wide that is.

Some room is left at either side of a mark, as the ends of a cut line are overwritten by a
sign that something is missing.

## Main definitions

* `SourceExtent`: What the lines to be shown reach over.
* `Window`: The columns that are shown.
* `Window.ofExtent`: The window for an extent.
* `Window.left`, `Window.right`: The columns of one line that are shown.
-/

namespace TagNesting

/-- What the lines to be shown reach over, all in columns. -/
structure SourceExtent where
  /-- The least indentation of a line. -/
  indentation : Nat
  /-- The first column that is marked. -/
  marksFrom : Nat
  /-- The column behind the last one that is marked. -/
  marksTo : Nat
  /-- The column behind the last label that follows its mark. -/
  labelsTo : Nat
  /-- The size of the longest line in bytes. -/
  longest : Nat
  deriving DecidableEq, Repr

/-- The columns of a source that are shown. -/
structure Window where
  /-- The first column. -/
  first : Nat
  /-- The column behind the last one. -/
  last : Nat
  /-- The number of columns there is room for. -/
  width : Nat
  deriving DecidableEq, Repr

namespace Window

/-- The room that is left beside a mark. -/
def padding : Nat := 6

/-- The indentation from which on it is cut off even when the lines fit. -/
def longIndentation : Nat := 20

/-- The indentation that is left when it is cut off. -/
def keptIndentation : Nat := 4

/-- The window for an extent, with room for `width` columns. -/
def ofExtent (extent : SourceExtent) (width : Nat) : Window :=
  let indentation := extent.indentation - padding
  let marksFrom := extent.marksFrom - padding
  let marksTo := extent.marksTo + padding
  let labelsTo := extent.labelsTo + padding
  let first := if longIndentation < indentation then indentation - keptIndentation else 0
  let last := max extent.longest first
  if last - first ≤ width then ⟨first, last, width⟩
  else if labelsTo - indentation ≤ width then ⟨indentation, indentation + width, width⟩
  else if labelsTo - marksFrom ≤ width then
    let first := marksFrom - (width - (labelsTo - marksFrom)) / 2
    ⟨first, first + width, width⟩
  else if marksTo - marksFrom ≤ width then
    let first := marksFrom - (width - (marksTo - marksFrom)) / 5 * 2
    ⟨first, first + width, width⟩
  else ⟨marksFrom, marksTo, width⟩

/-- Something is cut off at the left. -/
def cutsLeft (window : Window) : Bool := 0 < window.first

/-- The first column that is shown of a line with the given number of columns. -/
def left (window : Window) (columns : Nat) : Nat := min window.first columns

/-- The column behind the last one that is shown of a line. -/
def right (window : Window) (columns : Nat) : Nat :=
  if columns - window.first ≤ window.width then columns else min columns window.last

end Window

end TagNesting
