import TagNesting.Text.Bytes

/-!
# Source Lines

A source cut into lines. Three terminators end a line: a line feed, a carriage return with
a line feed after it, and a carriage return alone. The pair counts once, so a file that
came from another system has the same lines.

Nothing of the source is lost. `splitLines` keeps each terminator beside the text it ends,
so the pieces written one after the other are the source again. A terminator at the very
end adds no empty line after it, and the empty source has no line at all.

## Main definitions

* `splitLines`: The texts of the lines, each with its terminator.
* `SourceLine`: A line with its number and its byte position in the source.
* `sourceLines`: The lines of a source, numbered from one.
-/

namespace TagNesting

/-- The characters that can end a line. -/
def isLineEnd (c : Char) : Bool := c == '\n' || c == '\r'

/-- The texts of the lines in order, each with the terminator that ends it. Only the last line
    can be without one. -/
def splitLines : List Char → List (List Char × List Char)
  | [] => []
  | '\r' :: '\n' :: rest => ([], ['\r', '\n']) :: splitLines rest
  | c :: rest =>
      if isLineEnd c then ([], [c]) :: splitLines rest
      else
        match splitLines rest with
        | [] => [([c], [])]
        | (text, terminator) :: more => (c :: text, terminator) :: more

/-- One line of a source. -/
structure SourceLine where
  /-- The number of the line, counted from one. -/
  number : Nat
  /-- The byte position of the first character of the line in the source. -/
  offset : Nat
  /-- The characters of the line, its terminator left out. -/
  text : List Char
  deriving DecidableEq, Repr

/-- Lines numbered on from `number`, the first of them at byte `offset`. -/
def numberLines (number offset : Nat) : List (List Char × List Char) → List SourceLine
  | [] => []
  | (text, terminator) :: rest =>
      ⟨number, offset, text⟩ ::
        numberLines (number + 1) (offset + byteLength text + byteLength terminator) rest

/-- The lines of a source. -/
def sourceLines (source : List Char) : List SourceLine :=
  numberLines 1 0 (splitLines source)

end TagNesting
