import TagNesting.Finding
import TagNesting.Markup.SourceLine
import TagNesting.Markup.Tag

/-!
# Nesting

The check itself. The tags of a source are taken in order, those that close themselves and
those with the name of a void element left out. An opening tag goes onto a stack, and a
closing tag takes the top off it, whatever its name: where the two names differ that is a
finding, but nothing is put back. One tag too many can therefore set off a row of
mismatches, and in return every tag is accounted for exactly once.

What happens at each tag is recorded as a `Step`. The findings are read off the steps, and
so is the log, so the two cannot drift apart.

## Main definitions

* `defaultVoidElements`: The elements that have no closing tag.
* `PlacedTag`: A tag with the number of its line.
* `nestingTags`: The tags of a source that open or close something.
* `Step`: What happens at one tag.
* `Step.finding?`: What a step has to report.
* `walk`: The steps along a list of tags, and the tags left open behind them.
* `findings`: Everything a check of a source reports.
* `progress`: How far a check has come after each line.
-/

namespace TagNesting

/-- The elements that never take a closing tag, unless others are named. -/
def defaultVoidElements : List (List Char) :=
  ["input".toList, "img".toList, "br".toList, "hr".toList]

/-- A tag with the number of the line it stands on. -/
structure PlacedTag where
  /-- The number of the line. -/
  line : Nat
  /-- The tag. -/
  tag : Tag
  deriving DecidableEq, Repr

/-- The tags of one line. -/
def SourceLine.tags (line : SourceLine) : List PlacedTag :=
  ((StrippedLine.ofText line.text).tags line.offset).map (⟨line.number, ·⟩)

/-- Every tag of a source, in order. -/
def sourceTags (source : List Char) : List PlacedTag :=
  (sourceLines source).flatMap SourceLine.tags

/-- A tag opens or closes an element: it does not close itself and its name is no void one. -/
def affectsNesting (void : List (List Char)) (placed : PlacedTag) : Bool :=
  placed.tag.kind != .selfClosing && !void.contains placed.tag.name

/-- The tags of a source that open or close an element. -/
def nestingTags (void : List (List Char)) (source : List Char) : List PlacedTag :=
  (sourceTags source).filter (affectsNesting void)

/-- What happens at one tag. -/
inductive Step where
  /-- A tag is opened while `depth` others are open. -/
  | opens (placed : PlacedTag) (depth : Nat)
  /-- A tag closes the one opened last. -/
  | closes (placed : PlacedTag) (opened : OpenTag)
  /-- A tag closes while nothing is open. -/
  | stray (placed : PlacedTag)
  deriving DecidableEq, Repr

/-- What a step has to report. -/
def Step.finding? : Step → Option Finding
  | opens .. => none
  | closes placed opened =>
      if opened.name = placed.tag.name then none
      else
        some (.mismatchedClosing placed.line placed.tag.name placed.tag.span opened)
  | stray placed =>
      some (.unexpectedClosing placed.line placed.tag.name placed.tag.span)

/-- What happens at a tag when the given tags are open, the one opened last first, and the tags
    that are open behind it. -/
def stepAt (opened : List OpenTag) (placed : PlacedTag) : Step × List OpenTag :=
  match placed.tag.kind with
  | .closing =>
      match opened with
      | [] => (.stray placed, [])
      | top :: rest => (.closes placed top, rest)
  | _ => (.opens placed opened.length, ⟨placed.tag.name, placed.tag.span⟩ :: opened)

/-- The steps along a list of tags and the tags that are open at its end, the one opened last
    first. -/
def walk (opened : List OpenTag) : List PlacedTag → List Step × List OpenTag
  | [] => ([], opened)
  | placed :: rest =>
      let (step, opened') := stepAt opened placed
      let (steps, last) := walk opened' rest
      (step :: steps, last)

/-- The finding that tags are open at the end, if any are. The stack has the tag opened last
    first, and the finding lists the tags as they were opened. -/
def unclosedFinding? : List OpenTag → Option Finding
  | [] => none
  | opened => some (.unclosed opened.reverse)

/-- What steps report, then what is open behind them. -/
def reported (walked : List Step × List OpenTag) : List Finding :=
  walked.1.filterMap Step.finding? ++ (unclosedFinding? walked.2).toList

/-- Everything a check of a source reports, in the order in which it comes up. -/
def findings (void : List (List Char)) (source : List Char) : List Finding :=
  reported (walk [] (nestingTags void source))

/-- How far a check has come at the end of a line. -/
structure Progress where
  /-- The number of the line. -/
  line : Nat
  /-- The tags that are open, in the order in which they were opened. -/
  opened : List OpenTag
  /-- The findings so far, the one on tags left open not among them. -/
  found : List Finding
  deriving DecidableEq, Repr

/-- The source up to the end of a line's text. -/
def SourceLine.sourceThrough (line : SourceLine) (source : List Char) : List Char :=
  uptoByte (line.offset + byteLength line.text) source

/-- How far a check has come after each line of a source. -/
def progress (void : List (List Char)) (source : List Char) : List Progress :=
  (sourceLines source).map fun line =>
    let walked := walk [] (nestingTags void (line.sourceThrough source))
    ⟨line.number, walked.2.reverse, walked.1.filterMap Step.finding?⟩

end TagNesting
