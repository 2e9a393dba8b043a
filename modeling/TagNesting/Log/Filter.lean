import TagNesting.Log.Event
import TagNesting.Number.Whole
import TagNesting.Text.Class

/-!
# Log Filters

Which events get into the log. A filter is a list of rules, and of the rules that apply to
an event the most specific one decides: the one that names the longest beginning of where
the event comes from, and then the one that names the most values. An event to which no
rule applies stays out.

A filter is given as text by rules with commas between them: a level, for every event;
where events come from, and all of these are let in; or the two with an equals sign
between them. A rule can ask besides, in brackets, for values that an event has. It can
also ask for a span that the event is in, or for what a value is; events here are in no
span, so such a rule never applies.

## Main definitions

* `LogRule`, `LogFilter`: The rules, and lists of them.
* `LogFilter.allows`: The filter lets an event into the log.
* `LogFilter.ofVerbosity`: The filter for the flags of the command line.
* `LogFilter.ofText?`: The filter that a text is.
-/

namespace TagNesting

/-- One rule of a filter. -/
structure LogRule where
  /-- The beginning of where the events come from, if that matters. -/
  source : Option (List Char)
  /-- The values that the events have. -/
  values : List (List Char)
  /-- The least important level that is let in, if one is. -/
  level : Option LogLevel
  deriving DecidableEq, Repr

/-- The rules of a filter. -/
abbrev LogFilter : Type := List LogRule

namespace LogRule

/-- The rule applies to an event. -/
def appliesTo (rule : LogRule) (event : LogEvent) : Bool :=
  let fromSource :=
    match rule.source with
    | some source => source.isPrefixOf event.source
    | none => true
  let names := "message".toList :: event.values.map (·.1)
  fromSource && rule.values.all names.contains

/-- How specific a rule is: whether and how much it says of where events come from, and how
    many values it names. -/
def specificity (rule : LogRule) : Nat × Nat :=
  match rule.source with
  | some source => (source.length + 1, rule.values.length)
  | none => (0, rule.values.length)

/-- One rule goes before another, or takes its place: it is more specific, or as specific and its
    values do not come earlier in the alphabet. -/
def goesBefore (rule other : LogRule) : Bool :=
  let (a, b) := rule.specificity
  let (c, d) := other.specificity
  c < a || (c == a && (d < b || (d == b && !decide (rule.values < other.values))))

/-- The rule lets an event in that it applies to. -/
def allows (rule : LogRule) (event : LogEvent) : Bool :=
  match rule.level with
  | some level => event.level.number ≤ level.number
  | none => false

end LogRule

namespace LogFilter

/-- The most specific rule that applies to an event. -/
def decidingRule? (filter : LogFilter) (event : LogEvent) : Option LogRule :=
  (List.filter (fun rule => rule.appliesTo event) filter).foldl (fun best rule =>
    match best with
    | some other => if rule.goesBefore other then some rule else best
    | none => some rule) none

/-- The filter lets an event into the log. -/
def allows (filter : LogFilter) (event : LogEvent) : Bool :=
  match filter.decidingRule? event with
  | some rule => rule.allows event
  | none => false

/-- The filter for the flags of the command line. -/
def ofVerbosity (quiet : Bool) (verbosity : Nat) : LogFilter :=
  let level : LogLevel :=
    if quiet then .error
    else
      match verbosity with
      | 0 => .warn
      | 1 => .info
      | 2 => .debug
      | _ => .trace
  [⟨none, [], some level⟩]

end LogFilter

/-- The level that a text names in any case, or by its number; the inner result is nothing
    where the text turns the log off. -/
def readLogLevel? (cs : List Char) : Option (Option LogLevel) :=
  let name := cs.map Char.toUpper
  match readWhole cs with
  | .ok 0 => some none
  | .ok n => (LogLevel.all.find? fun level => level.number == n).map some
  | .error _ =>
      if name = "OFF".toList then some none
      else (LogLevel.all.find? fun level => level.name == name).map some

/-- The text of a rule. White space around it is passed over when its parts are looked for. A
    part is then what stands in the whole text at the same places, so white space before the
    rule moves all of them. -/
structure RuleText where
  /-- The whole text. -/
  whole : List Char
  /-- The text without the white space around it. -/
  core : List Char
  deriving DecidableEq, Repr

namespace RuleText

/-- The text of a rule with its core. -/
def ofText (cs : List Char) : RuleText := ⟨cs, trimBy isWhiteSpace cs⟩

/-- The part of the whole text that has the place and the length of a part of the core, given
    by what follows in the core before and behind it. -/
def part (text : RuleText) (before behind : List Char) : List Char :=
  (text.whole.drop (text.core.length - before.length)).take (before.length - behind.length)

/-- What the whole text has from a place in the core on, given by what follows there. -/
def ending (text : RuleText) (before : List Char) : List Char :=
  text.whole.drop (text.core.length - before.length)

end RuleText

/-- The values that are named between curly brackets, and what follows the brackets. The inner
    result is nothing where it matters what one of them is. -/
def readValueNames? (text : RuleText) (cs : List Char) :
    Option (Option (List (List Char)) × List Char) :=
  match cs.dropWhile (· != '}') with
  | [] => none
  | bracket :: rest =>
      let inside := text.part cs (bracket :: rest)
      if inside.isEmpty then none
      else if inside.contains '=' then some (none, rest)
      else some (some [inside], rest)

/-- The level that ends a rule, behind its brackets. -/
def readRuleEnd? (text : RuleText) (cs : List Char) : Option (Option LogLevel) :=
  match cs with
  | [] => some (some .trace)
  | '=' :: rest =>
      let level := text.ending rest
      if level.isEmpty then some (some .trace) else readLogLevel? level
  | _ => none

/-- A rule from behind the square bracket on. The inner result is nothing where the rule never
    applies. -/
def readBrackets? (text : RuleText) (source : Option (List Char)) (cs : List Char) :
    Option (Option LogRule) := do
  let span := cs.takeWhile fun c => c != ']' && c != '{'
  match cs.dropWhile fun c => c != ']' && c != '{' with
  | ']' :: rest =>
      let _ ← readRuleEnd? text rest
      some none
  | '{' :: rest =>
      let (values, behind) ← readValueNames? text rest
      match behind with
      | ']' :: rest' =>
          let level ← readRuleEnd? text rest'
          match values with
          | some names => some (if span.isEmpty then some ⟨source, names, level⟩ else none)
          | none => some none
      | _ => none
  | _ => none

/-- The rule that a text is. The inner result is nothing where the rule never applies. -/
def readLogRule? (cs : List Char) : Option (Option LogRule) :=
  let text := RuleText.ofText cs
  match text.core with
  | [] => none
  | '[' :: rest => readBrackets? text none rest
  | c :: _ =>
      if !(isWordChar c || c == '-' || c == ':') then none
      else
        let behind := text.core.dropWhile fun c => c != '=' && c != '['
        let source := text.part text.core behind
        match behind with
        | [] =>
            match readLogLevel? cs with
            | some level => some (some ⟨none, [], level⟩)
            | none => some (some ⟨some cs, [], some .trace⟩)
        | '[' :: rest => readBrackets? text (some source) rest
        | rest => (readRuleEnd? text rest).map fun level => some ⟨some source, [], level⟩

/-- The pieces of a text between commas. -/
def splitAtCommas : List Char → List (List Char)
  | [] => [[]]
  | c :: rest =>
      if c = ',' then [] :: splitAtCommas rest
      else
        match splitAtCommas rest with
        | [] => [[c]]
        | piece :: pieces => (c :: piece) :: pieces

/-- The filter that a text is, if each of its rules is one. Empty rules do not count. -/
def LogFilter.ofText? (cs : List Char) : Option LogFilter := do
  let rules ← ((splitAtCommas cs).filter (!·.isEmpty)).mapM readLogRule?
  some (rules.filterMap id)

end TagNesting
