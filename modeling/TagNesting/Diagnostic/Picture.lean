import TagNesting.Diagnostic.Drawing

/-!
# The Picture of a Diagnostic

A diagnostic as it is shown to people: the message with its code, the place of the fault as
`path:line:column`, the lines of the source with their marks, and the notes. Lines and
columns count from one, and a column is a character.

## Main definitions

* `Diagnostic.origin?`: The line and the column that are shown as the place of the fault.
* `Diagnostic.numberWidth`: The number of columns that line numbers take.
* `Diagnostic.picture`: The picture on a canvas.
* `Diagnostic.render`: The picture as text.
-/

namespace TagNesting

/-- A mark stands further left than another, among primary marks if there are any. -/
def Mark.isAhead (a b : Mark) : Bool :=
  (a.isPrimary && !b.isPrimary) || (a.isPrimary == b.isPrimary && a.start.char < b.start.char)

/-- The mark that stands ahead of all others, the first of several that are equal. -/
def foremost : List Mark → Option Mark
  | [] => none
  | mark :: rest =>
      some (rest.foldl (fun best next => if next.isAhead best then next else best) mark)

/-- The line and the column, both counted from one, of the place to look at in an excerpt: the
    first line with a primary mark, and in it the leftmost primary mark. Where nothing is
    primary, the first mark there is. -/
def originOf (excerpt : List MarkedLine) : Option (Nat × Nat) :=
  let primary := excerpt.find? fun marked => marked.marks.any Mark.isPrimary
  (primary.or (excerpt.find? fun marked => !marked.marks.isEmpty)).bind fun marked =>
    (foremost marked.marks).map fun mark => (marked.line.number, mark.start.char + 1)

/-- A text cut at its line feeds. -/
def textRows : List Char → List (List Char)
  | [] => [[]]
  | c :: rest =>
      if c = '\n' then [] :: textRows rest
      else
        match textRows rest with
        | [] => [[c]]
        | row :: rows => (c :: row) :: rows

/-- A text drawn from a row on, behind what is in it, its further rows indented. -/
def drawRows (row indentation : Nat) (text : List Char) (ink : Ink) (canvas : Canvas) : Canvas :=
  match textRows text with
  | [] => canvas
  | head :: more =>
      let start := canvas.append row head ink
      (more.foldl (fun (state : Canvas × Nat) line =>
        let indented := state.1.append state.2 (List.replicate indentation ' ') .plain
        (indented.append state.2 line ink, state.2 + 1)) (start, row + 1)).1

namespace Diagnostic

/-- The line and the column that are shown as the place of the fault. -/
def origin? (diagnostic : Diagnostic) : Option (Nat × Nat) :=
  originOf (excerptOf (shownLines diagnostic.source) diagnostic).1

/-- The number of line feeds in a text, one at its very end not counted. -/
def innerLineFeeds (text : List Char) : Nat :=
  text.count '\n' - (if text.getLast? = some '\n' then 1 else 0)

/-- The number of columns that line numbers take: as many as the line of the callouts' end
    needs, or the last line of the source where there are none. -/
def numberWidth (diagnostic : Diagnostic) : Nat :=
  let size := byteLength diagnostic.source
  let stops := diagnostic.callouts.map fun a => (a.span.clampedTo size).2
  let stop := stops.max?.getD size
  (decimal (1 + innerLineFeeds (uptoByte stop diagnostic.source))).length

/-- The place of the fault as text. -/
def originText (diagnostic : Diagnostic) : List Char :=
  match diagnostic.origin? with
  | some (line, column) => diagnostic.path ++ ':' :: decimal line ++ ':' :: decimal column
  | none => diagnostic.path

/-- The message with its code. The rows of the message stand below each other. -/
def drawHeading (diagnostic : Diagnostic) (canvas : Canvas) : Canvas :=
  let title := "error[".toList ++ diagnostic.code ++ [']']
  let canvas := (canvas.append 0 title .fault).append 0 [':', ' '] .heading
  drawRows 0 (byteLength title + 2) (shownText diagnostic.message) .heading canvas

/-- The place of the fault and a bar below it. -/
def drawOrigin (diagnostic : Diagnostic) (width : Nat) (canvas : Canvas) : Canvas :=
  let row := canvas.height
  let canvas := (canvas.indent row "--> ".toList .frame).append row diagnostic.originText .plain
  let canvas := canvas.indent row (List.replicate width ' ') .plain
  canvas.put (row + 1) (width + 1) '|' .frame

/-- A note. Its rows stand below each other. -/
def drawNote (width : Nat) (canvas : Canvas) (note : List Char) : Canvas :=
  let row := canvas.height
  let canvas := canvas.write row 0 (List.replicate width ' ') .plain
  let canvas := canvas.write row (width + 1) ['=', ' '] .frame
  let canvas := (canvas.append row "note".toList .heading).append row [':', ' '] .plain
  drawRows row (width + 9) note .plain canvas

/-- The notes, set apart from what is above them. -/
def drawNotes (diagnostic : Diagnostic) (width : Nat) (canvas : Canvas) : Canvas :=
  if diagnostic.notes.isEmpty then canvas
  else
    diagnostic.notes.foldl (drawNote width) (canvas.put canvas.height (width + 1) '|' .frame)

/-- The diagnostic on a canvas. -/
def picture (diagnostic : Diagnostic) : Canvas :=
  let lines := shownLines diagnostic.source
  let (excerpt, depth) := excerptOf lines diagnostic
  let width := diagnostic.numberWidth
  let canvas := diagnostic.drawOrigin width (diagnostic.drawHeading .empty)
  diagnostic.drawNotes width (drawExcerpt width depth lines excerpt canvas)

/-- The diagnostic as text, without a line end behind the last row. -/
def render (diagnostic : Diagnostic) (coloured : Bool) : List Char :=
  diagnostic.picture.text coloured

end Diagnostic

end TagNesting
