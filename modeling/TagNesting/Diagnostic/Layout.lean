import TagNesting.Diagnostic.Excerpt

/-!
# Label Levels

Where the labels under a line go. The label of the rightmost mark may stand beside its mark,
on level zero. Every other label hangs below, on a level of its own, as do labels whose
marks overlap, so that no label is written over another. Marks are gone through from right
to left, and the level only ever rises.

A mark that overlaps another is remembered by its place in that order. Later, when long
marks are shortened, the places are looked up in another order, that of the widths; the
lists are of one length, and the flags are meant for their places and not for the marks.

## Main definitions

* `Mark.overlaps`: Two marks have a column in common.
* `PlacedMark`: A mark with its level.
* `LabelLayout`: The levels of all marks of a line.
* `layoutOf`: The layout of a line's marks.
-/

namespace TagNesting

namespace Mark

/-- Two marks have a column in common, the first of them being wider by `extra` columns. -/
def overlaps (extra : Nat) (a b : Mark) : Bool :=
  (b.start.column ≤ a.start.column && a.start.column < b.stop.column) ||
    (a.start.column ≤ b.start.column && b.start.column < a.stop.column + extra)

/-- Two marks cover the same characters and columns. -/
def sameExtent (a b : Mark) : Bool :=
  a.start.column == b.start.column && a.start.char == b.start.char &&
    a.stop.column == b.stop.column && a.stop.char == b.stop.char

/-- The columns of a mark's label and of the room around it. -/
def labelRoom (mark : Mark) : Nat :=
  match mark.label with
  | some label => byteLength label + 2
  | none => 0

/-- The mark does not end behind the other one. -/
def stopsWithin (a b : Mark) : Bool :=
  a.stop.column < b.stop.column ||
    (a.stop.column == b.stop.column && a.stop.char ≤ b.stop.char)

/-- The mark cannot share its level with one further left. -/
def collides (level : Nat) (mark next : Mark) : Bool :=
  let meets := overlaps next.labelRoom next mark
  (meets && mark.hasLabel && next.hasLabel) || (mark.takesSpace && next.hasLabel) ||
    (mark.hasLabel && next.takesSpace) || (mark.takesSpace && next.takesSpace) ||
    (meets && next.stopsWithin mark && next.hasLabel && level == 0)

end Mark

/-- A mark with the level on which its label hangs. -/
structure PlacedMark where
  /-- The level, zero being the row of the mark itself. -/
  level : Nat
  /-- The mark. -/
  mark : Mark
  deriving DecidableEq, Repr

/-- The levels of all marks of a line. -/
structure LabelLayout where
  /-- The marks with their levels, from right to left. -/
  placed : List PlacedMark
  /-- The places in that order at which a mark overlaps another. -/
  overlapping : List Nat
  /-- The greatest level. -/
  height : Nat
  deriving DecidableEq, Repr

/-- The places among the marks further left that overlap a mark, up to the first that forces its
    label down, and whether there is one. A mark without a label that covers the same
    columns forces nothing, as it can be drawn over. -/
def meetings (level : Nat) (mark : Mark) : (place : Nat) → List Mark → List Nat × Bool
  | _, [] => ([], false)
  | place, next :: rest =>
      let meets := Mark.overlaps 0 next mark
      let here := if meets then [place] else []
      if meets && mark.hasLabel && level == 0 &&
          !(Mark.sameExtent next mark && !next.hasLabel) then (here, true)
      else
        let (more, forced) := meetings level mark (place + 1) rest
        (here ++ more, forced)

/-- The layout of marks from the given place on, when the level has risen to `level`. -/
def layoutFrom (place level : Nat) : List Mark → LabelLayout
  | [] => ⟨[], [], level⟩
  | mark :: rest =>
      let (met, forced) := meetings level mark (place + 1) rest
      let own := if forced then level + 1 else level
      let next := if rest.any (mark.collides own) then own + 1 else own
      let layout := layoutFrom (place + 1) next rest
      let overlapping := if met.isEmpty then [] else place :: met
      ⟨⟨own, mark⟩ :: layout.placed, overlapping ++ layout.overlapping, layout.height⟩

/-- The marks of a line from right to left. -/
def rightToLeft (marks : List Mark) : List Mark :=
  marks.mergeSort fun a b =>
    b.start.column < a.start.column ||
      (b.start.column == a.start.column && b.start.char ≤ a.start.char)

/-- The layout of a line's marks. When all of them begin callouts that span several lines,
    the levels are turned round, which makes their lines cross least. -/
def layoutOf (marks : List Mark) : LabelLayout :=
  let layout := layoutFrom 0 0 (rightToLeft marks)
  let height := if layout.height = 0 then 0 else layout.height + 1
  if layout.placed.all (·.mark.isFirst) then
    let top := (layout.placed.map PlacedMark.level).foldl max 0
    { layout with
      placed := layout.placed.map fun p => { p with level := top - p.level }
      height := height - 1 }
  else { layout with height := height }

/-- The marks from the widest to the narrowest, a primary one after others of its width, so that
    what is drawn last is what should be seen. -/
def widestFirst (placed : List PlacedMark) : List PlacedMark :=
  placed.mergeSort fun a b =>
    b.mark.columns < a.mark.columns ||
      (b.mark.columns == a.mark.columns && (!a.mark.isPrimary || b.mark.isPrimary))

end TagNesting
