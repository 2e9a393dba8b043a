import TagNesting.Diagnostic.Basic
import TagNesting.Text.Class
import TagNesting.Text.Display

/-!
# Excerpts

The lines of a source that a diagnostic has to show, with marks on them. Here a line ends
at a line feed, to which a carriage return just before it belongs. A carriage return that
stands alone ends no line; it is shown as a character of its line.

A callout within a line is one mark. One that spans several lines has a mark at its
first line and one at its last, and a few of the lines between are kept to show that they
belong to it. Spans of that kind which share lines are drawn side by side: each has a depth,
the column of its line at the left, and the one that reaches furthest is leftmost.

Not every pair of spans that share lines is told apart by its depth. Depths are handed out
by going over the spans once for each of them and stopping at the first that shares no line
with it, so a span that begins later may keep the depth of another.

## Main definitions

* `ShownLine`: A line as it is shown.
* `shownLines`: The lines of a source.
* `Location`: A byte of a source as line, character and column.
* `startLocation`, `stopLocation`: The locations of the two ends of a span.
* `Mark`: What is drawn under one line.
* `MarkedLine`: A line with its marks.
* `excerptOf`: The lines to show and the greatest depth on them.
-/

namespace TagNesting

/-- A line as it is shown. -/
structure ShownLine where
  /-- The number of the line, counted from one. -/
  number : Nat
  /-- The byte position of the line's first character. -/
  start : Nat
  /-- The characters of the line. -/
  text : List Char
  /-- The size of the line's end in bytes. -/
  endSize : Nat
  deriving DecidableEq, Repr

namespace ShownLine

/-- The byte position behind the characters of the line. -/
def textStop (line : ShownLine) : Nat := line.start + byteLength line.text

/-- The byte position behind the line and its end. -/
def stop (line : ShownLine) : Nat := line.textStop + line.endSize

/-- A byte belongs to the line or to its end. -/
def holds (line : ShownLine) (byte : Nat) : Bool := line.start ≤ byte && byte < line.stop

end ShownLine

/-- The texts of the lines, each with the size of its end. -/
def cutLines : List Char → List (List Char × Nat)
  | [] => []
  | '\n' :: rest => ([], 1) :: cutLines rest
  | '\r' :: '\n' :: rest => ([], 2) :: cutLines rest
  | c :: rest =>
      match cutLines rest with
      | [] => [([c], 0)]
      | (text, endSize) :: more => (c :: text, endSize) :: more

/-- Lines numbered on from `number`, the first of them at byte `start`. -/
def placeLines (number start : Nat) : List (List Char × Nat) → List ShownLine
  | [] => []
  | (text, endSize) :: rest =>
      ⟨number, start, text, endSize⟩ ::
        placeLines (number + 1) (start + byteLength text + endSize) rest

/-- The lines of a source. The empty source has one, which is empty. -/
def shownLines (source : List Char) : List ShownLine :=
  if source.isEmpty then [⟨1, 0, [], 0⟩] else placeLines 1 0 (cutLines source)

/-- A byte of a source as line, character and column. -/
structure Location where
  /-- The number of the line. -/
  line : Nat
  /-- The number of characters of the line before it. -/
  char : Nat
  /-- The number of columns of the line before it. -/
  column : Nat
  /-- The byte itself. -/
  byte : Nat
  deriving DecidableEq, Repr

/-- The line that holds a byte, the last one if the byte lies behind them all. -/
def lineAt (lines : List ShownLine) (byte : Nat) : ShownLine :=
  (lines.find? (·.holds byte)).getD (lines.getLastD ⟨1, 0, [], 0⟩)

/-- The location of a span's first byte. One in the end of a line counts as one character
    further than the line has. -/
def startLocation (lines : List ShownLine) (byte : Nat) : Location :=
  let line := lineAt lines byte
  let before := uptoByte (byte - line.start) line.text
  let past := if line.textStop < byte then 1 else 0
  ⟨line.number, before.length + past, columnCount before, byte⟩

/-- The location behind the last byte of a span that begins at `start`. When the span takes in
    the end of its last line, that counts as one character and one column. -/
def stopLocation (lines : List ShownLine) (start : Location) (byte : Nat) : Location :=
  if byte = start.byte then start
  else
    let line := lineAt lines byte
    let before := uptoByte (byte - line.start) line.text
    let past := if start.line != line.number && line.textStop < byte then 1 else 0
    ⟨line.number, before.length + past, columnCount before + past, byte⟩

/-- The part of a callout that is drawn under a line. -/
inductive MarkShape where
  /-- All of it. -/
  | whole
  /-- The beginning of one that spans several lines. -/
  | first (depth : Nat)
  /-- The end of one that spans several lines. -/
  | last (depth : Nat)
  /-- A line in the middle of one, under which nothing is drawn. -/
  | between (depth : Nat)
  deriving DecidableEq, Repr

/-- What is drawn under one line. -/
structure Mark where
  /-- Where it begins. -/
  start : Location
  /-- Where it ends. -/
  stop : Location
  /-- It marks the fault. -/
  isPrimary : Bool
  /-- What is written beside it. -/
  label : Option (List Char)
  /-- Which part of the callout it is. -/
  shape : MarkShape
  deriving DecidableEq, Repr

namespace Mark

/-- There is something to write beside the mark. -/
def hasLabel (mark : Mark) : Bool := (mark.label.getD []) != []

/-- The mark needs room for a line that runs to the left. -/
def takesSpace (mark : Mark) : Bool :=
  match mark.shape with
  | .first _ => true
  | .last _ => true
  | _ => false

/-- The mark is the beginning of a callout that spans several lines. -/
def isFirst (mark : Mark) : Bool :=
  match mark.shape with
  | .first _ => true
  | _ => false

/-- The number of columns of the mark. -/
def columns (mark : Mark) : Nat :=
  max mark.start.column mark.stop.column - min mark.start.column mark.stop.column

end Mark

/-- A callout that spans several lines. -/
structure LongMark where
  /-- Which of the lines at the left is its own. -/
  depth : Nat
  /-- Where it begins. -/
  start : Location
  /-- Where it ends. -/
  stop : Location
  /-- It marks the fault. -/
  isPrimary : Bool
  /-- What is written beside its end. -/
  label : Option (List Char)
  /-- Another one has the same span. -/
  isShared : Bool
  deriving DecidableEq, Repr

namespace LongMark

/-- Two of them have the same span. -/
def sameSpan (a b : LongMark) : Bool := a.start == b.start && a.stop == b.stop

/-- Two of them have a line in common. -/
def sharesLine (a b : LongMark) : Bool :=
  (b.start.line ≤ a.start.line && a.start.line ≤ b.stop.line) ||
    (a.start.line ≤ b.start.line && b.start.line ≤ a.stop.line)

/-- The mark at its first line, one column wide and without the label. -/
def firstMark (long : LongMark) : Mark :=
  let behind :=
    ⟨long.start.line, long.start.char + 1, long.start.column + 1, long.start.byte + 1⟩
  ⟨long.start, behind, long.isPrimary, none, .first long.depth⟩

/-- The mark at its last line, one column wide. One that shares its span with another is drawn
    as if it were within the line. -/
def lastMark (long : LongMark) : Mark :=
  let before :=
    ⟨long.stop.line, long.stop.char - 1, long.stop.column - 1, long.stop.byte - 1⟩
  ⟨before, long.stop, long.isPrimary, long.label,
    if long.isShared then .whole else .last long.depth⟩

/-- The mark at a line in its middle. -/
def betweenMark (long : LongMark) : Mark :=
  ⟨⟨0, 0, 0, 0⟩, ⟨0, 0, 0, 0⟩, long.isPrimary, none, .between long.depth⟩

end LongMark

/-- The long marks in the order in which they are dealt with: by first line, and of those with
    one first line the longest first. -/
def sortLongMarks (marks : List LongMark) : List LongMark :=
  marks.mergeSort fun a b =>
    a.start.line < b.start.line || (a.start.line == b.start.line && b.stop.line ≤ a.stop.line)

/-- One pass over the long marks on behalf of `mark`. Those that share a line with it are moved
    one place to the right and those with its span are noted, up to the first that is neither;
    that one is primary if a primary mark so far has its span. -/
def passOver (mark : LongMark) (primary : List (Location × Location)) :
    List LongMark → List LongMark
  | [] => []
  | a :: rest =>
      if !mark.sameSpan a && mark.sharesLine a then
        { a with depth := a.depth + 1 } :: passOver mark primary rest
      else if mark.sameSpan a && mark != a then
        { a with isShared := true } :: passOver mark primary rest
      else
        { a with isPrimary := a.isPrimary || primary.contains (a.start, a.stop) } :: rest

/-- The long marks after a pass for each of them in turn. -/
def passes (primary : List (Location × Location)) : List LongMark → List LongMark → List LongMark
  | [], marks => marks
  | mark :: rest, marks =>
      let primary := if mark.isPrimary then (mark.start, mark.stop) :: primary else primary
      passes primary rest (passOver mark primary marks)

/-- The long marks with their depths, and the greatest depth. -/
def withDepths (marks : List LongMark) : List LongMark × Nat :=
  let sorted := sortLongMarks marks
  let passed := passes [] sorted sorted
  let deepest := (passed.map LongMark.depth).foldl max 0
  (passed.map fun mark => { mark with depth := deepest - mark.depth + 1 }, deepest)

/-- A line says something by itself: it is neither blank, nor a bracket, nor a comment that
    documents nothing. -/
def isTelling (text : List Char) : Bool :=
  let trimmed := trimBy isWhiteSpace text
  let isComment := ['/', '/'].isPrefixOf trimmed &&
    !(['/', '/', '/'].isPrefixOf trimmed || ['/', '/', '!'].isPrefixOf trimmed)
  !isComment && !([[], ['{'], ['}'], ['('], [')'], ['['], [']']].contains trimmed)

/-- The line with the given number says something by itself. -/
def isTellingAt (lines : List ShownLine) (number : Nat) : Bool :=
  match lines.find? (·.number == number) with
  | some line => isTelling line.text
  | none => false

/-- The marks of a callout that spans several lines, each with the number of its line. Up to
    three lines behind the first are kept, without those at the end of them that say nothing,
    and the line before the last if it is further on and says something. -/
def longMarks (lines : List ShownLine) (long : LongMark) : List (Nat × Mark) :=
  let first := long.start.line
  let last := long.stop.line
  let middle := min (first + 4) last
  let reach :=
    ((List.range (middle - first)).reverse.find? fun i => isTellingAt lines (first + i)).map
      (first + · + 1)
  let between :=
    (List.range (reach.getD first - (first + 1))).map fun i => (first + 1 + i, long.betweenMark)
  let beforeLast :=
    if middle < last - 1 && isTellingAt lines (last - 1) then [(last - 1, long.betweenMark)]
    else []
  let shown := if long.isShared then [] else (first, long.firstMark) :: between ++ beforeLast
  shown ++ [(last, long.lastMark)]

/-- A mark within a line, or the makings of marks on several. -/
inductive Placed where
  /-- Everything is on one line. -/
  | within (mark : Mark)
  /-- There is more than one line. -/
  | across (long : LongMark)
  deriving DecidableEq, Repr

/-- A callout placed in the lines of its source. One that takes up no column is made one
    column wide, so that there is something to see. -/
def Callout.place (lines : List ShownLine) (size : Nat) (callout : Callout) : Placed :=
  let bounds := callout.span.clampedTo size
  let start := startLocation lines bounds.1
  let stop := stopLocation lines start bounds.2
  if start.line = stop.line then
    let stop :=
      if start.column = stop.column then { stop with column := stop.column + 1 } else stop
    .within ⟨start, stop, callout.isPrimary, some callout.label, .whole⟩
  else .across ⟨1, start, stop, callout.isPrimary, some callout.label, false⟩

/-- A line with its marks. -/
structure MarkedLine where
  /-- The line. -/
  line : ShownLine
  /-- What is drawn under it. -/
  marks : List Mark
  deriving DecidableEq, Repr

/-- The lines of a diagnostic's source that have marks, and the greatest depth on them. -/
def excerptOf (lines : List ShownLine) (diagnostic : Diagnostic) : List MarkedLine × Nat :=
  let size := byteLength diagnostic.source
  let placed := diagnostic.callouts.map (Callout.place lines size)
  let within := placed.filterMap fun
    | .within mark => some (mark.start.line, mark)
    | .across _ => none
  let across := placed.filterMap fun
    | .within _ => none
    | .across long => some long
  let (longs, deepest) := withDepths across
  let marks := within ++ longs.flatMap (longMarks lines)
  let marked := lines.map fun line =>
    MarkedLine.mk line ((marks.filter (·.1 == line.number)).map (·.2))
  (marked.filter fun line => !line.marks.isEmpty, deepest)

end TagNesting
