/-!
# Canvas

Rows of coloured characters, on which a picture is drawn piece by piece and in any order.
Whatever is drawn last is what shows, and a row or a column that has not been reached yet
is made up of plain blanks. Every character takes one cell, however wide it is shown.

The text of a canvas is its rows with line ends between them. With colours each change of
ink along a row is an escape sequence, and every row ends with plain ink; without colours
the inks are left out.

## Main definitions

* `Ink`: The ways in which a character can stand out.
* `Canvas`: Rows of cells.
* `Canvas.put`, `Canvas.write`: A character or a text drawn at a place.
* `Canvas.append`, `Canvas.indent`: A text drawn behind or before what is in a row.
* `Canvas.abridge`: A stretch of a row replaced by a mark for what is missing.
* `Canvas.text`: The canvas as text.
-/

namespace TagNesting

/-- The ways in which a character can stand out. -/
inductive Ink where
  /-- It does not. -/
  | plain
  /-- A heading. -/
  | heading
  /-- The frame around a source, and what is of secondary importance. -/
  | frame
  /-- The fault. -/
  | fault
  deriving DecidableEq, Repr, Inhabited

/-- The escape sequences that turn an ink on. -/
def Ink.turnOn : Ink → List Char
  | plain => []
  | heading => "\x1b[1m".toList
  | frame => "\x1b[1m\x1b[94m".toList
  | fault => "\x1b[1m\x1b[91m".toList

/-- The escape sequence that turns an ink off. -/
def Ink.turnOff : Ink → List Char
  | plain => []
  | _ => "\x1b[0m".toList

/-- A character with its ink. -/
structure Cell where
  /-- The character. -/
  char : Char
  /-- The ink. -/
  ink : Ink
  deriving DecidableEq, Repr

/-- A plain blank. -/
def Cell.blank : Cell := ⟨' ', .plain⟩

instance : Inhabited Cell := ⟨.blank⟩

/-- Rows of cells. -/
structure Canvas where
  /-- The rows, the topmost first. -/
  rows : Array (Array Cell)
  deriving Repr

namespace Canvas

/-- A canvas with nothing on it. -/
def empty : Canvas := ⟨#[]⟩

/-- The number of rows. -/
def height (canvas : Canvas) : Nat := canvas.rows.size

/-- A row lengthened with blanks to at least the given width. -/
def padRow (width : Nat) (row : Array Cell) : Array Cell :=
  row ++ Array.replicate (width - row.size) Cell.blank

/-- A canvas lengthened with empty rows to at least the given height. -/
def padRows (height : Nat) (canvas : Canvas) : Canvas :=
  ⟨canvas.rows ++ Array.replicate (height - canvas.rows.size) #[]⟩

/-- The cells of a row, none if there is no such row. -/
def row (canvas : Canvas) (r : Nat) : Array Cell := canvas.rows.getD r #[]

/-- The canvas with other cells in a row. -/
def setRow (canvas : Canvas) (r : Nat) (cells : Array Cell) : Canvas :=
  ⟨(canvas.padRows (r + 1)).rows.setIfInBounds r cells⟩

/-- A character drawn at a place. -/
def put (canvas : Canvas) (r column : Nat) (c : Char) (ink : Ink) : Canvas :=
  canvas.setRow r ((padRow (column + 1) (canvas.row r)).setIfInBounds column ⟨c, ink⟩)

/-- A text drawn from a place on. -/
def write (canvas : Canvas) (r column : Nat) (text : List Char) (ink : Ink) : Canvas :=
  (text.foldl (fun (state : Canvas × Nat) c => (state.1.put r state.2 c ink, state.2 + 1))
    (canvas, column)).1

/-- A text drawn behind what is in a row. -/
def append (canvas : Canvas) (r : Nat) (text : List Char) (ink : Ink) : Canvas :=
  canvas.write r (canvas.row r).size text ink

/-- A row moved to the right, unless it is empty, and a text drawn in front of it. -/
def indent (canvas : Canvas) (r : Nat) (text : List Char) (ink : Ink) : Canvas :=
  let cells := canvas.row r
  let moved := if cells.isEmpty then cells else Array.replicate text.length Cell.blank ++ cells
  (canvas.setRow r moved).write r 0 text ink

/-- A character drawn in every column from `first` to before `last`. -/
def rule (canvas : Canvas) (r first last : Nat) (c : Char) (ink : Ink) : Canvas :=
  (List.range (last - first)).foldl (fun drawn i => drawn.put r (first + i) c ink) canvas

/-- A character drawn in a column of every row from `top` to before `bottom`. -/
def column (canvas : Canvas) (top bottom place : Nat) (c : Char) (ink : Ink) : Canvas :=
  (List.range (bottom - top)).foldl (fun drawn i => drawn.put (top + i) place c ink) canvas

/-- The columns from `first` to before `last` of a row replaced by a text, if the row reaches
    that far. -/
def abridge (canvas : Canvas) (r first last : Nat) (text : List Char) (ink : Ink) : Canvas :=
  let cells := canvas.row r
  if first = last || cells.size < first || cells.size < last then canvas
  else
    let kept := cells.extract 0 first ++ cells.extract (last - text.length) cells.size
    (canvas.setRow r kept).write r first text ink

/-- A row as text with its inks, `current` being the ink that is on. -/
def colouredCells (current : Ink) : List Cell → List Char
  | [] => current.turnOff
  | cell :: rest =>
      if cell.ink = current then cell.char :: colouredCells current rest
      else current.turnOff ++ cell.ink.turnOn ++ cell.char :: colouredCells cell.ink rest

/-- A row as text. -/
def rowText (coloured : Bool) (cells : Array Cell) : List Char :=
  if coloured then colouredCells .plain cells.toList else cells.toList.map Cell.char

/-- The canvas as text, with a line end between rows. -/
def text (canvas : Canvas) (coloured : Bool) : List Char :=
  ['\n'].intercalate (canvas.rows.toList.map (rowText coloured))

end Canvas

end TagNesting
