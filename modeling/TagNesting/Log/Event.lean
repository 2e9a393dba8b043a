import TagNesting.Nesting
import TagNesting.Text.Literal

/-!
# Log Events

What a run has to say about itself, apart from its report. Each event has a level, the part
of the program that it comes from, a message and some named values, and it is one line of
the log. The events of the check itself are read off its steps.

Paths and names of tags in an event stand as they are or as a literal, whichever the event
says; only the literal is safe against characters that cannot be seen.

## Main definitions

* `LogLevel`: How much an event matters.
* `LogEvent`: The events.
* `LogEvent.level`, `LogEvent.source`, `LogEvent.message`, `LogEvent.values`: What an event is
  made of.
* `LogEvent.line`: An event as a line of the log.
* `Step.events`: The events of one step of a check.
-/

namespace TagNesting

/-- How much an event matters, the most important level first. -/
inductive LogLevel where
  /-- Something has failed. -/
  | error
  /-- Something is suspicious. -/
  | warn
  /-- Something has been done. -/
  | info
  /-- How something is done. -/
  | debug
  /-- How something is done, step by step. -/
  | trace
  deriving DecidableEq, Repr

namespace LogLevel

/-- All levels, the most important one first. -/
def all : List LogLevel := [error, warn, info, debug, trace]

/-- The number of a level; the more it matters, the smaller. -/
def number : LogLevel → Nat
  | error => 1
  | warn => 2
  | info => 3
  | debug => 4
  | trace => 5

/-- The name of a level. -/
def name : LogLevel → List Char
  | error => "ERROR".toList
  | warn => "WARN".toList
  | info => "INFO".toList
  | debug => "DEBUG".toList
  | trace => "TRACE".toList

end LogLevel

/-- What can happen in a run. -/
inductive LogEvent where
  /-- The user's settings are looked for. -/
  | userSettings (path : List Char)
  /-- A source has been read. -/
  | sourceRead (path : List Char) (bytes : Nat)
  /-- A tag is opened while others are open. -/
  | opened (placed : PlacedTag) (depth : Nat)
  /-- A closing tag takes the one opened last. -/
  | closed (placed : PlacedTag) (name : List Char)
  /-- A closing tag has another name than the tag it takes. -/
  | mismatched (placed : PlacedTag) (expected : List Char)
  /-- A closing tag stands where nothing is open. -/
  | stray (placed : PlacedTag)
  /-- A source has been checked. -/
  | checked (path : List Char) (findings : Nat)
  deriving DecidableEq, Repr

/-- What happens at one tag, as events. -/
def Step.events : Step → List LogEvent
  | opens placed depth => [.opened placed depth]
  | closes placed opened =>
      .closed placed opened.name ::
        if opened.name = placed.tag.name then [] else [.mismatched placed opened.name]
  | stray placed => [.stray placed]

namespace LogEvent

/-- How much an event matters. -/
def level : LogEvent → LogLevel
  | opened .. => .trace
  | closed .. => .trace
  | _ => .debug

/-- The part of the program that an event comes from. -/
def source : LogEvent → List Char
  | userSettings _ => "tagcheck_conf".toList
  | sourceRead .. => "tagcheck_scan".toList
  | checked .. => "tagcheck::commands::check".toList
  | _ => "tagcheck_scan::checker".toList

/-- What has happened, in words. -/
def message : LogEvent → List Char
  | userSettings _ => "user config".toList
  | sourceRead .. => "read source".toList
  | opened .. => "push".toList
  | closed .. => "pop".toList
  | mismatched .. => "mismatched closing tag".toList
  | stray _ => "closing tag with nothing open".toList
  | checked .. => "checked".toList

/-- The values that tell which tag an event is about. -/
def tagValues (placed : PlacedTag) : List (List Char × List Char) :=
  [("line".toList, decimal placed.line), ("tag".toList, literalText placed.tag.name)]

/-- The named values of an event. -/
def values : LogEvent → List (List Char × List Char)
  | userSettings path => [("path".toList, path)]
  | sourceRead path bytes => [("path".toList, path), ("bytes".toList, decimal bytes)]
  | opened placed depth => tagValues placed ++ [("depth".toList, decimal depth)]
  | closed placed name => tagValues placed ++ [("open".toList, name)]
  | mismatched placed expected => tagValues placed ++ [("expected".toList, expected)]
  | stray placed => tagValues placed
  | checked path findings =>
      [("path".toList, literalText path), ("errors".toList, decimal findings)]

/-- An event as a line of the log. The time of the event, which stands before it, is left out, and
    so are the colours that it has on a terminal. -/
def line (event : LogEvent) : List Char :=
  event.level.name ++ ' ' :: event.source ++ [':', ' '] ++ event.message ++
    (event.values.flatMap fun value => ' ' :: value.1 ++ '=' :: value.2) ++ ['\n']

end LogEvent

end TagNesting
