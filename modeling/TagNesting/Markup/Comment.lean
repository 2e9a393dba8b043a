import TagNesting.Text.Bytes
import TagNesting.Text.Class

/-!
# Comments

A line with its comments removed. Two kinds are recognised, neither with any knowledge of
strings or attributes:

* a block comment in braces that opens and closes on the line, `{/* ... */}`, where blanks
  may stand between brace and slash;
* everything from the first `//` on, searched for in what the block comments leave, so a
  `//` that only arises when a comment between the slashes goes is one too.

A block comment ends at the first `*/` that a closing brace follows, and its body holds no
line feed. The search goes on behind it, so text that comes together where a comment was
is not searched for another.

Every byte of the result is a byte of the line. A `Run` is a stretch of the line between
two block comments, and the runs are what leads from a position in the stripped text back
to the line. They keep what the `//` cut off, so that a position past the end of the
stripped text still has an image.

## Main definitions

* `afterComment?`: The rest of a text behind the block comment it begins with.
* `Run`: A stretch of a line that no block comment takes.
* `runsFrom`: The runs of a line.
* `beforeSlashes`: The part of a text before its first `//`.
* `StrippedLine`: A line without its comments.
* `StrippedLine.position`: Where a byte of the stripped text stands in the line.
* `StrippedLine.range`: The part of the line that a range of the stripped text comes from.
-/

namespace TagNesting

/-- The rest of a text behind a comment's end: `*/`, blanks and a closing brace. -/
def afterClosing? : List Char → Option (List Char)
  | '*' :: '/' :: rest =>
      match rest.dropWhile isBlank with
      | '}' :: after => some after
      | _ => none
  | _ => none

/-- The rest of a text behind the first comment end in it that no line feed precedes. -/
def afterBody? : List Char → Option (List Char)
  | [] => none
  | c :: rest =>
      match afterClosing? (c :: rest) with
      | some after => some after
      | none => if c = '\n' then none else afterBody? rest

/-- The rest of a text behind the block comment it begins with, if it begins with one. -/
def afterComment? : List Char → Option (List Char)
  | '{' :: rest =>
      match rest.dropWhile isBlank with
      | '/' :: '*' :: body => afterBody? body
      | _ => none
  | _ => none

/-- A stretch of a line that no block comment takes. -/
structure Run where
  /-- The byte position in the line at which the stretch begins. -/
  start : Nat
  /-- The characters of the stretch. -/
  text : List Char
  deriving DecidableEq, Repr

/-- The runs of a text that stands at byte `position` of the line, its first `skip` characters
    being the rest of a comment. There is a run before each comment and one after the last,
    empty ones included. -/
def runsFrom : (skip position : Nat) → List Char → List Run
  | _, position, [] => [⟨position, []⟩]
  | skip + 1, position, c :: rest => runsFrom skip (position + c.utf8Size) rest
  | 0, position, c :: rest =>
      match afterComment? (c :: rest) with
      | some after =>
          ⟨position, []⟩ ::
            runsFrom (rest.length - after.length) (position + c.utf8Size) rest
      | none =>
          match runsFrom 0 (position + c.utf8Size) rest with
          | [] => [⟨position, [c]⟩]
          | run :: runs => ⟨position, c :: run.text⟩ :: runs

/-- The part of a text before its first `//`, all of it if there is none. -/
def beforeSlashes : List Char → List Char
  | [] => []
  | c :: rest =>
      if ['/', '/'].isPrefixOf (c :: rest) then [] else c :: beforeSlashes rest

/-- A line without its comments. -/
structure StrippedLine where
  /-- What is left of the line. -/
  text : List Char
  /-- The stretches of the line that the block comments left, in order. -/
  runs : List Run
  deriving DecidableEq, Repr

namespace StrippedLine

/-- The line less its comments. -/
def ofText (line : List Char) : StrippedLine :=
  let runs := runsFrom 0 0 line
  ⟨beforeSlashes (runs.flatMap Run.text), runs⟩

/-- Byte `n` of the runs written one after the other, as a byte of the line. It belongs to the
    last run that begins at or before it, so a byte just behind a run belongs to the next,
    and the last run takes all that lie beyond. -/
def positionIn : List Run → Nat → Nat
  | [], n => n
  | [run], n => run.start + n
  | run :: next :: runs, n =>
      if byteLength run.text ≤ n then positionIn (next :: runs) (n - byteLength run.text)
      else run.start + n

/-- Where byte `n` of the stripped text stands in the line. -/
def position (line : StrippedLine) (n : Nat) : Nat :=
  positionIn line.runs n

/-- The part of the line that the bytes from `first` to just before `last` of the stripped text
    come from. It ends behind the image of the last byte, not at the image of `last`, so a
    comment that follows the range is not taken in, while one inside it is. -/
def range (line : StrippedLine) (first last : Nat) : Nat × Nat :=
  let start := line.position first
  if last ≤ first then (start, start) else (start, line.position (last - 1) + 1)

end StrippedLine

end TagNesting
