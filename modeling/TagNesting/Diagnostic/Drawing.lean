import TagNesting.Diagnostic.Canvas
import TagNesting.Diagnostic.Layout
import TagNesting.Diagnostic.Margin
import TagNesting.Text.Decimal

/-!
# Drawing an Excerpt

The lines of an excerpt drawn one below the other, each with its marks under it. At the left
stand the line numbers and a bar, and between the bar and the code there is room for the
lines of callouts that span several lines.

Lines that are left out are shown as `...`. A single line between two that are shown is
shown as well, since it takes no more room than the dots would.

## Main definitions

* `Frame`: What the rows of one picture have in common.
* `drawCode`: The code of a line.
* `drawMarks`: The marks under a line.
* `drawExcerpt`: All lines of an excerpt.
-/

namespace TagNesting

/-- What the rows of one picture have in common. -/
structure Frame where
  /-- The number of columns for line numbers. -/
  numberWidth : Nat
  /-- The number of lines that can run beside each other at the left. -/
  depth : Nat
  /-- The columns of the source that are shown. -/
  window : Window
  deriving Repr

namespace Frame

/-- The column of the bar. -/
def bar (frame : Frame) : Nat := frame.numberWidth + 1

/-- The first column behind the bar and a blank. -/
def inside (frame : Frame) : Nat := frame.numberWidth + 3

/-- The first column of the code. -/
def code (frame : Frame) : Nat :=
  if frame.depth = 0 then frame.inside else frame.inside + frame.depth + 1

end Frame

/-- The number of columns of the whole picture. -/
def pictureWidth : Nat := 140

/-- The sign that something is missing. -/
def ellipsis : List Char := ['.', '.', '.']

/-- The ink of a mark and of all that belongs to it. -/
def markInk (isPrimary : Bool) : Ink := if isPrimary then .fault else .frame

/-- The character that marks are drawn with. -/
def markChar (isPrimary : Bool) : Char := if isPrimary then '^' else '-'

/-- The bar drawn in a row. -/
def drawBar (frame : Frame) (row : Nat) (canvas : Canvas) : Canvas :=
  canvas.put row frame.bar '|' .frame

/-- The line of a callout that spans several lines drawn in some rows. -/
def drawSide (frame : Frame) (top bottom depth : Nat) (ink : Ink) (canvas : Canvas) : Canvas :=
  canvas.column top bottom (frame.inside + depth - 1) '|' ink

/-- The text without its first columns and how many columns that were. A character that lies
    across the limit goes as well. -/
def skipColumns (limit : Nat) : (skipped : Nat) → List Char → Nat × List Char
  | skipped, [] => (skipped, [])
  | skipped, c :: rest =>
      if skipped < limit then skipColumns limit (skipped + columnsOf c) rest
      else (skipped, c :: rest)

/-- The longest beginning of a text that takes no more columns than the limit. -/
def takeColumns (limit : Nat) : (taken : Nat) → List Char → List Char
  | _, [] => []
  | taken, c :: rest =>
      let taken := taken + columnsOf c
      if taken ≤ limit then c :: takeColumns limit taken rest else []

/-- How many characters from the start of a text are needed to fill the given columns, and how
    many columns they take. -/
def fillColumns (room : Nat) : (count columns : Nat) → List Char → Nat × Nat
  | count, columns, [] => (count, columns)
  | count, columns, c :: rest =>
      let columns := columns + columnsOf c
      if room ≤ columns then (count + 1, columns)
      else fillColumns room (count + 1) columns rest

/-- The code of a line drawn in a row, with its number and the bar, and the first column of the
    code that shows. Where the code is cut, its ends are replaced by the ellipsis. -/
def drawCode (frame : Frame) (number row : Nat) (code : List Char) (canvas : Canvas) :
    Canvas × Nat :=
  let columns := columnCount code
  let left := frame.window.left columns
  let right := frame.window.right columns
  let (skipped, behind) := skipColumns left 0 code
  let seen := takeColumns (right - left) 0 behind
  let left := max left skipped
  let cut := frame.window.cutsLeft
  let (count, filled) := if cut then fillColumns ellipsis.length 0 0 seen else (0, 0)
  let left := left - (filled - ellipsis.length)
  let canvas := if cut then canvas.write row frame.code ellipsis .frame else canvas
  let shown := seen.drop count
  let canvas := canvas.write row (frame.code + filled) shown .plain
  let canvas :=
    if right < columns then
      let tail := (fillColumns ellipsis.length 0 0 seen.reverse).1
      canvas.write row (frame.code + filled + shown.length - tail) ellipsis .frame
    else canvas
  let numeral := decimal number
  let padded := List.replicate (frame.numberWidth - numeral.length) ' ' ++ numeral
  (drawBar frame row (canvas.write row 0 padded .frame), left)

/-- The column in the picture of a column of the code. -/
def codeColumn (frame : Frame) (left column : Nat) : Nat := frame.code + column - left

/-- The line that runs from the left to a mark at either end of a callout. -/
def drawApproach (frame : Frame) (row left : Nat) (canvas : Canvas) (p : PlacedMark) : Canvas :=
  let last := codeColumn frame left p.mark.start.column
  let ink := markInk p.mark.isPrimary
  match p.mark.shape with
  | .first depth => canvas.rule (row + p.level + 1) (frame.inside + depth) last '_' ink
  | .last depth => canvas.rule (row + p.level + 1) (frame.inside + depth) last '_' ink
  | _ => canvas

/-- The lines that run down from a mark to its label, and those at the left. -/
def drawDescent (frame : Frame) (row left height : Nat) (canvas : Canvas) (p : PlacedMark) :
    Canvas :=
  let place := codeColumn frame left p.mark.start.column
  let ink := markInk p.mark.isPrimary
  let level := p.level + 1
  let canvas :=
    if 1 < level && (p.mark.hasLabel || p.mark.takesSpace) then
      canvas.column (row + 1) (row + level + 1) place '|' ink
    else canvas
  match p.mark.shape with
  | .first depth =>
      drawSide frame (row + level + 1) (row + height + 2) depth ink
        (canvas.put (row + level) (frame.inside + depth - 1) ' ' ink)
  | .last depth => drawSide frame row (row + level + 1) depth ink canvas
  | _ => canvas

/-- The label of a mark: behind it on its own row, or below its first column. -/
def drawLabel (frame : Frame) (row left : Nat) (canvas : Canvas) (p : PlacedMark) : Canvas :=
  let (level, column) :=
    if p.level = 0 then
      (1, p.mark.stop.column + (if p.mark.stop.column = 0 then 2 else 1) - left)
    else (p.level + 2, p.mark.start.column - left)
  match p.mark.label with
  | some label =>
      canvas.write (row + level) (frame.code + column) label (markInk p.mark.isPrimary)
  | none => canvas

/-- The mark itself. -/
def drawMark (frame : Frame) (row left : Nat) (canvas : Canvas) (p : PlacedMark) : Canvas :=
  let ink := markInk p.mark.isPrimary
  let c := markChar p.mark.isPrimary
  let start := p.mark.start.column
  let columns := (List.range (p.mark.stop.column - start)).map (start + ·)
  let canvas := columns.foldl
    (fun drawn column => drawn.put (row + 1) (codeColumn frame left column) c ink) canvas
  if p.mark.takesSpace || (p.level != 0 && p.mark.hasLabel) then
    canvas.put (row + 1) (codeColumn frame left start) c ink
  else canvas

/-- The middle of a mark that is more than twice as wide as the picture, and of the code above
    it, replaced by the ellipsis. Marks at an overlapping place are left alone. -/
def shortenMark (frame : Frame) (row : Nat) (overlapping : List Nat) (canvas : Canvas)
    (indexed : PlacedMark × Nat) : Canvas :=
  let (p, place) := indexed
  let width := p.mark.stop.column - p.mark.start.column
  let room := frame.window.width
  if overlapping.contains place || p.mark.shape != .whole then canvas
  else if room * 2 < width && 10 < width then
    let pad := max (room / 3) 5
    let first := p.mark.start.char + pad
    let last := p.mark.stop.char - pad
    (canvas.abridge row first last ellipsis .frame).abridge (row + 1) first last ellipsis .frame
  else canvas

/-- The lines at the left that begin or end at some marks, with their inks. -/
def sidesOf (marks : List Mark) : List (Nat × Ink) :=
  marks.filterMap fun mark =>
    match mark.shape with
    | .first depth => some (depth, markInk mark.isPrimary)
    | .last depth => some (depth, markInk mark.isPrimary)
    | _ => none

/-- A line to whose marks no row of their own is due: callouts only begin at it, and before
    them there is nothing but white space. -/
def beginsPlainly (code : List Char) (marks : List Mark) : Bool :=
  marks.all fun mark =>
    match mark.shape with
    | .first _ => (code.take mark.start.column).all isWhiteSpace
    | .between _ => true
    | _ => false

/-- The marks of a line drawn under it. The code is in the given row, the first column of it
    that shows is `left`. -/
def drawMarks (frame : Frame) (row left : Nat) (marks : List Mark) (canvas : Canvas) :
    Canvas × List (Nat × Ink) :=
  let layout := layoutOf marks
  let bars := List.range (layout.height + 1)
  let canvas := bars.foldl (fun drawn i => drawBar frame (row + i + 1) drawn) canvas
  let canvas := layout.placed.foldl (drawApproach frame row left) canvas
  let canvas := layout.placed.foldl (drawDescent frame row left layout.height) canvas
  let canvas := layout.placed.foldl (drawLabel frame row left) canvas
  let sorted := widestFirst layout.placed
  let canvas := sorted.foldl (drawMark frame row left) canvas
  let canvas := sorted.zipIdx.foldl (shortenMark frame row layout.overlapping) canvas
  (canvas, sidesOf (sorted.map PlacedMark.mark))

/-- A line with its marks, and the lines at the left that begin or end at it. -/
def drawLine (frame : Frame) (marked : MarkedLine) (canvas : Canvas) :
    Canvas × List (Nat × Ink) :=
  let code := shownText marked.line.text
  let row := canvas.height
  let (canvas, left) := drawCode frame marked.line.number row code canvas
  if beginsPlainly code marked.marks then
    let sides := sidesOf marked.marks
    let slash := fun (drawn : Canvas) (side : Nat × Ink) =>
      drawn.put row (frame.inside + side.1 - 1) '/' side.2
    (sides.foldl slash canvas, sides)
  else drawMarks frame row left marked.marks canvas

/-- The row between two lines that do not follow each other: the line between them if there is
    only one, or the ellipsis. The lines at the left run on, those that begin at the upper
    line included. -/
def drawGap (frame : Frame) (lines : List ShownLine) (upper lower : MarkedLine)
    (running : List (Nat × Ink)) (canvas : Canvas) : Canvas :=
  let row := canvas.height
  let sides := running ++ upper.marks.filterMap fun mark =>
    match mark.shape with
    | .first depth => some (depth, markInk mark.isPrimary)
    | _ => none
  let drawSides := fun canvas : Canvas =>
    sides.foldl (fun drawn side => drawSide frame row (row + 1) side.1 side.2 drawn) canvas
  let distance := lower.line.number - upper.line.number
  if 2 < distance then drawSides (canvas.write row 0 ellipsis .frame)
  else if distance = 2 then
    let number := upper.line.number + 1
    let code := ((lines.find? (·.number == number)).map ShownLine.text).getD []
    drawSides (drawCode frame number row (shownText code) canvas).1
  else canvas

/-- The lines of an excerpt, while the given lines at the left are running. -/
def drawLines (frame : Frame) (lines : List ShownLine) (running : List (Nat × Ink)) :
    List MarkedLine → Canvas → Canvas
  | [], canvas => canvas
  | marked :: rest, canvas =>
      let top := canvas.height
      let (canvas, touched) := drawLine frame marked canvas
      let isTouched := fun side : Nat × Ink => (touched.map (·.1)).contains side.1
      let isRunning := fun side : Nat × Ink => (running.map (·.1)).contains side.1
      let kept := running.filter fun side => !isTouched side
      let begun := touched.filter fun side => !isRunning side
      let canvas := kept.foldl
        (fun drawn side => drawSide frame top drawn.height side.1 side.2 drawn) canvas
      let canvas :=
        match rest with
        | [] => canvas
        | next :: _ => drawGap frame lines marked next kept canvas
      drawLines frame lines (kept ++ begun) rest canvas

/-- The indentation of a line, a tab counting as four columns. -/
def indentationOf (text : List Char) : Nat :=
  (text.takeWhile isWhiteSpace).foldl (fun count c => count + if c = '\t' then 4 else 1) 0

/-- The least of some numbers, or zero if there are none. -/
def leastOf (ns : List Nat) : Nat := ns.min?.getD 0

/-- What an excerpt reaches over. -/
def extentOf (excerpt : List MarkedLine) : SourceExtent :=
  let texts := excerpt.map (·.line.text)
  let marks := excerpt.flatMap MarkedLine.marks
  let written := texts.filter fun text => !text.all isWhiteSpace
  let behindLabel := fun mark : Mark =>
    mark.stop.column + (match mark.label with
      | some label => byteLength label + 1
      | none => 0)
  { indentation := leastOf (written.map indentationOf)
    marksFrom := leastOf (marks.map fun mark => min mark.start.column mark.stop.column)
    marksTo := (marks.map fun mark => max mark.start.column mark.stop.column).foldl max 0
    labelsTo := (marks.map behindLabel).foldl max 0
    longest := (texts.map byteLength).foldl max 0 }

/-- The frame for an excerpt. -/
def frameOf (numberWidth depth : Nat) (excerpt : List MarkedLine) : Frame :=
  let frame : Frame := ⟨numberWidth, depth, ⟨0, 0, 0⟩⟩
  { frame with window := Window.ofExtent (extentOf excerpt) (pictureWidth - frame.code) }

/-- All lines of an excerpt drawn below what is on the canvas. -/
def drawExcerpt (numberWidth depth : Nat) (lines : List ShownLine) (excerpt : List MarkedLine)
    (canvas : Canvas) : Canvas :=
  drawLines (frameOf numberWidth depth excerpt) lines [] excerpt canvas

end TagNesting
