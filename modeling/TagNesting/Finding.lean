import TagNesting.Span
import TagNesting.Text.Decimal

/-!
# Findings

What a check has to say about a source. There are three kinds, and each has a code, a name
for programs and a message for people. The names in a message stand as they are, without
any escape: a tag's name never holds a line end or a `>`, so one finding is one line.

## Main definitions

* `OpenTag`: A tag that has been opened.
* `Finding`: One thing wrong with the nesting of a source.
* `Finding.code`, `Finding.kind`: How programs tell the kinds apart.
* `Finding.line?`: The line of the closing tag, where there is one.
* `Finding.primarySpan?`: The place to point at.
* `Finding.message`: The finding in one line.
-/

namespace TagNesting

/-- A tag that has been opened. -/
structure OpenTag where
  /-- The name of the tag. -/
  name : List Char
  /-- The place of the tag in the source. -/
  span : Span
  deriving DecidableEq, Repr

/-- One thing wrong with the nesting of a source. -/
inductive Finding where
  /-- A closing tag stands where nothing is open. -/
  | unexpectedClosing (line : Nat) (name : List Char) (span : Span)
  /-- A closing tag has another name than the tag opened last, which it closes all the same. -/
  | mismatchedClosing (line : Nat) (name : List Char) (span : Span) (expected : OpenTag)
  /-- Tags are open where the source ends, listed in the order in which they were opened. -/
  | unclosed (tags : List OpenTag)
  deriving DecidableEq, Repr

namespace Finding

/-- The code of a finding's kind. -/
def code : Finding → List Char
  | unexpectedClosing .. => "T100".toList
  | mismatchedClosing .. => "T101".toList
  | unclosed .. => "T102".toList

/-- The name of a finding's kind. -/
def kind : Finding → List Char
  | unexpectedClosing .. => "unexpected_closing".toList
  | mismatchedClosing .. => "mismatched_closing".toList
  | unclosed .. => "unclosed_at_eof".toList

/-- The number of the line on which the closing tag stands. -/
def line? : Finding → Option Nat
  | unexpectedClosing line .. => some line
  | mismatchedClosing line .. => some line
  | unclosed .. => none

/-- The place to point at: the closing tag, or the tag that was opened last. -/
def primarySpan? : Finding → Option Span
  | unexpectedClosing _ _ span => some span
  | mismatchedClosing _ _ span _ => some span
  | unclosed tags => tags.getLast?.map OpenTag.span

/-- Names in single quotes, set apart by commas, between square brackets. -/
def quotedList (names : List (List Char)) : List Char :=
  let quoted := names.map fun name => '\'' :: name ++ ['\'']
  '[' :: [',', ' '].intercalate quoted ++ [']']

/-- The finding in one line. -/
def message : Finding → List Char
  | unexpectedClosing line name _ =>
      "Line ".toList ++ decimal line ++ ": Unexpected closing tag </".toList ++ name ++ ['>']
  | mismatchedClosing line name _ expected =>
      "Line ".toList ++ decimal line ++ ": Mismatched closing tag </".toList ++ name ++
        ">. Expected closing for <".toList ++ expected.name ++ ['>']
  | unclosed tags =>
      "Unclosed tags at end of file: ".toList ++ quotedList (tags.map OpenTag.name)

end Finding

end TagNesting
