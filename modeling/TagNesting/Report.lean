import TagNesting.Diagnostic.Picture
import TagNesting.Finding
import TagNesting.Json.Writer

/-!
# Reports

The findings of a check as they are handed out, in one of three formats. At most `limit` of
them are shown; how many there are is known all the same and said where the format has
room for it.

All formats show the same findings in the same order, the first ones of the list. A report
without findings is one fixed sentence, except in JSON, where it is an empty array.

## Main definitions

* `Report`: Findings with the name and the text of their source.
* `Report.reported`: The findings that are shown.
* `Report.text`, `Report.json`, `Report.pretty`: The report in its formats.
* `Report.summary`: How many findings there are and how many are shown.
* `Finding.toJson`: A finding as a JSON object.
* `Finding.diagnostic`: A finding as something to show in its source.
-/

namespace TagNesting

/-- The sentence that stands for a report without findings. -/
def noErrorsText : List Char := "No obvious tag nesting errors found.".toList

/-- The line above the findings. -/
def foundErrorsText : List Char := "Found errors:".toList

/-- Findings with the name and the text of their source. -/
structure Report where
  /-- The name of the source. -/
  path : List Char
  /-- The source. -/
  source : List Char
  /-- All findings. -/
  findings : List Finding
  /-- How many of them are shown at most. -/
  limit : Option Nat
  deriving DecidableEq, Repr

/-- A field of an object that is only there if it has a value. -/
def optionalField {α : Type} (name : String) (encode : α → Json) :
    Option α → List (List Char × Json)
  | some value => [(name.toList, encode value)]
  | none => []

namespace Finding

/-- The name of the closing tag, where there is one. -/
def tagName? : Finding → Option (List Char)
  | unexpectedClosing _ name _ => some name
  | mismatchedClosing _ name _ _ => some name
  | unclosed _ => none

/-- The name of the tag that should have been closed, where there is one. -/
def expectedName? : Finding → Option (List Char)
  | mismatchedClosing _ _ _ expected => some expected.name
  | _ => none

/-- The names of the tags that are left open, in the order in which they were opened. -/
def openNames : Finding → List (List Char)
  | unclosed tags => tags.map OpenTag.name
  | _ => []

/-- A finding as a JSON object. Only what a finding has becomes a field. -/
def toJson (finding : Finding) : Json :=
  .object <|
    [("code".toList, .text finding.code), ("kind".toList, .text finding.kind)] ++
      optionalField "line" Json.ofNat finding.line? ++
      optionalField "tag" Json.text finding.tagName? ++
      optionalField "expected" Json.text finding.expectedName? ++
      optionalField "open_tags" (fun names => .array (names.map Json.text))
        (if finding.openNames.isEmpty then none else some finding.openNames) ++
      [("message".toList, .text finding.message)]

/-- The places a finding is about. -/
def callouts : Finding → List Callout
  | unexpectedClosing _ name span =>
      [⟨span, "no open tag to close with </".toList ++ name ++ ['>'], true⟩]
  | mismatchedClosing _ _ span expected =>
      [⟨span, "expected </".toList ++ expected.name ++ ['>'], true⟩,
        ⟨expected.span, '<' :: expected.name ++ "> opened here".toList, false⟩]
  | unclosed tags =>
      tags.map fun tag => ⟨tag.span, '<' :: tag.name ++ "> is never closed".toList, true⟩

/-- What there is to be said besides. A mismatch is followed by others more often than not. -/
def notes : Finding → List (List Char)
  | mismatchedClosing .. =>
      ["later closing tags are matched against the remaining open tags".toList]
  | _ => []

/-- A finding as something to show in its source. -/
def diagnostic (path source : List Char) (finding : Finding) : Diagnostic where
  code := finding.code
  message := finding.message
  path := path
  source := source
  callouts := finding.callouts
  notes := finding.notes

end Finding

namespace Report

/-- The number of findings, shown or not. -/
def total (report : Report) : Nat := report.findings.length

/-- The findings that are shown. -/
def reported (report : Report) : List Finding :=
  match report.limit with
  | some limit => report.findings.take limit
  | none => report.findings

/-- The report with one message a line. -/
def text (report : Report) : List Char :=
  if report.findings.isEmpty then noErrorsText ++ ['\n']
  else
    foundErrorsText ++ ['\n'] ++ report.reported.flatMap fun finding => finding.message ++ ['\n']

/-- The report as a JSON value. -/
def toJson (report : Report) : Json :=
  .object [("path".toList, .text report.path), ("total".toList, .ofNat report.total),
    ("reported".toList, .ofNat report.reported.length),
    ("errors".toList, .array (report.reported.map Finding.toJson))]

/-- The report as one JSON document. -/
def json (report : Report) : List Char := report.toJson.indented 0

/-- The report with excerpts of the source, an empty line behind each. -/
def pretty (report : Report) (coloured : Bool) : List Char :=
  if report.findings.isEmpty then noErrorsText ++ ['\n']
  else
    report.reported.flatMap fun finding =>
      (finding.diagnostic report.path report.source).render coloured ++ ['\n', '\n']

/-- How many findings there are, and how many are shown if that is fewer. -/
def summary (report : Report) : List Char :=
  let shown := report.reported.length
  let noun := if report.total = 1 then " error".toList else " errors".toList
  let found := "Found ".toList ++ decimal report.total ++ noun
  if shown < report.total then found ++ " (".toList ++ decimal shown ++ " shown).".toList
  else found ++ ['.']

end Report

end TagNesting
