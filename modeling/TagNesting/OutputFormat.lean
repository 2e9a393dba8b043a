/-!
# Output Formats

The three ways in which a report can be written. Each has a name; on the command line the
case of its letters does not matter.

## Main definitions

* `OutputFormat`: The formats.
* `OutputFormat.name`: The name of a format.
* `OutputFormat.ofName?`: The format that a name in any case stands for.
* `unknownFormatMessage`: What to say of a name that stands for none.
-/

namespace TagNesting

/-- A way in which a report can be written. -/
inductive OutputFormat where
  /-- One message a line. -/
  | text
  /-- One JSON document. -/
  | json
  /-- Excerpts of the source with the places marked. -/
  | pretty
  deriving DecidableEq, Repr

namespace OutputFormat

/-- All formats, in the order in which they are offered. -/
def all : List OutputFormat := [text, json, pretty]

/-- The name of a format. -/
def name : OutputFormat → List Char
  | text => "text".toList
  | json => "json".toList
  | pretty => "pretty".toList

/-- The format with exactly this name. -/
def ofExactName? (s : List Char) : Option OutputFormat :=
  all.find? fun format => format.name == s

/-- The format that a name in any case stands for. Only ASCII letters have a case here. -/
def ofName? (s : List Char) : Option OutputFormat :=
  ofExactName? (s.map Char.toLower)

end OutputFormat

/-- What to say of a name that stands for no format. -/
def unknownFormatMessage (s : List Char) : List Char :=
  "unknown output format '".toList ++ s ++ "' (expected text, json or pretty)".toList

end TagNesting
