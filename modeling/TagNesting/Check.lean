import TagNesting.CommandLine.Arguments
import TagNesting.Files.Reading
import TagNesting.Log.Event
import TagNesting.Report
import TagNesting.Settings.Sources

/-!
# Checks

A check from the settings to the report. The settings are loaded first, then the source is
read, and either can fail; nothing is printed then. What the command line says goes before
what the settings say, one by one: the format, the limit and the list of void elements are
taken from the command line if they are given there, and findings make the check fail if
either says so.

The names of void elements are trimmed, and names that are blank do not count. A list of
which nothing is left still is a list: then there are no void elements at all.

## Main definitions

* `Surroundings`: What a check can read.
* `CheckFailure`: Why there is no report.
* `CheckFailure.text`: A failure as it is printed.
* `CheckOutcome`: A report and what is to be done with it.
* `CheckRequest.voidNames`, `CheckRequest.shownLimit`: What the command line and the settings
  come to.
* `performCheck`: The events of a check and what it comes to.
* `CheckOutcome.stdout`, `CheckOutcome.stderr`, `CheckOutcome.status`: What a check prints and
  how it ends.

## Theorems

* `CheckFailure.prefix_text_iff`: The text of a failure tells whether settings are at fault.
-/

namespace TagNesting

/-- The user's file of settings. -/
structure UserSettings where
  /-- The file. -/
  file : SettingsFile
  /-- The whole path of the file. -/
  wholePath : List Char
  deriving DecidableEq, Repr

/-- What a check can read. -/
structure Surroundings where
  /-- The files. -/
  files : FileReader
  /-- What comes in on standard input. -/
  stdin : List UInt8
  /-- The user's file of settings, if there is a place for one. -/
  user : Option UserSettings

/-- Why there is no report. -/
inductive CheckFailure where
  /-- The settings cannot be loaded. -/
  | settings (error : SettingsError)
  /-- Standard input cannot be read. -/
  | stdin (failure : ReadFailure)
  /-- The source cannot be read. -/
  | source (error : SourceError)
  deriving DecidableEq, Repr

/-- What has failed, and below it each time what was behind it. -/
def CheckFailure.chain : CheckFailure → List (List Char)
  | settings error => ["Failed to load settings".toList, error.message, error.cause]
  | stdin failure => ["Failed to read stdin".toList, failure.message]
  | source error => [error.message, error.failure.message]

/-- A failure as it is printed. -/
def CheckFailure.text (failure : CheckFailure) : List Char :=
  match failure.chain with
  | [] => []
  | first :: causes =>
      "Error: ".toList ++ first ++ ['\n'] ++
        causes.flatMap fun cause => "Caused by: ".toList ++ cause ++ ['\n']

/-- A text says at its beginning that settings cannot be loaded just if that is what has failed. -/
theorem CheckFailure.prefix_text_iff (failure : CheckFailure) :
    "Error: Failed to load settings".toList <+: failure.text ↔
      ∃ error, failure = .settings error := by
  constructor
  · rintro ⟨rest, h⟩
    -- The other two begin with other letters, at the eighth place or ten further on.
    cases failure with
    | settings error => exact ⟨error, rfl⟩
    | stdin failure =>
        have hletter : some 'l' = some 'r' := congrArg (·[17]?) h
        exact absurd hletter (by decide)
    | source error =>
        have hletter : some 'F' = some 'f' := congrArg (·[7]?) h
        exact absurd hletter (by decide)
  · rintro ⟨error, rfl⟩
    exact ⟨_, rfl⟩

/-- A report and what is to be done with it. -/
structure CheckOutcome where
  /-- The report. -/
  report : Report
  /-- The format of the report. -/
  format : OutputFormat
  /-- The report is not printed. -/
  quiet : Bool
  /-- Findings make the check fail. -/
  failOnError : Bool
  deriving DecidableEq, Repr

namespace CheckOutcome

/-- What is printed on standard output: the report, unless it is not wanted. Excerpts are without
    colours, for the output is taken to go anywhere but to a terminal. -/
def stdout (outcome : CheckOutcome) : List Char :=
  if outcome.quiet then []
  else
    match outcome.format with
    | .text => outcome.report.text
    | .json => outcome.report.json ++ ['\n']
    | .pretty => outcome.report.pretty false

/-- What is printed on standard error: the summary, where the report has excerpts. -/
def stderr (outcome : CheckOutcome) : List Char :=
  if outcome.format = .pretty && !outcome.report.findings.isEmpty && !outcome.quiet then
    outcome.report.summary ++ ['\n']
  else []

/-- How the check ends: with one if there are findings and they make it fail, else with
    zero. -/
def status (outcome : CheckOutcome) : Nat :=
  if !outcome.report.findings.isEmpty && outcome.failOnError then 1 else 0

end CheckOutcome

/-- Names less the white space around them, blank ones left out. -/
def trimmedNames (names : List (List Char)) : List (List Char) :=
  (names.map (trimBy isWhiteSpace)).filter fun name => !name.isEmpty

namespace CheckRequest

/-- The names of void elements: those of the command line, else those of the settings, else the
    usual ones. -/
def voidNames (request : CheckRequest) (settings : Settings) : List (List Char) :=
  let given :=
    if request.voidElements.isEmpty then settings.voidElements else some request.voidElements
  match given with
  | some names => trimmedNames names
  | none => defaultVoidElements

/-- How many findings are shown at most. A limit of zero is none. -/
def shownLimit (request : CheckRequest) (settings : Settings) : Option Nat :=
  let limit := request.limit.getD settings.reportLimit
  if limit = 0 then none else some limit

/-- The path that stands for standard input. -/
def stdinPath : List Char := ['-']

/-- The source. -/
def source (request : CheckRequest) (surroundings : Surroundings) :
    Except CheckFailure (List Char) :=
  if request.path = stdinPath then (textOfBytes surroundings.stdin).mapError .stdin
  else (readSource surroundings.files request.path).mapError .source

/-- What a check of a source comes to. -/
def outcome (request : CheckRequest) (settings : Settings) (quiet : Bool) (source : List Char) :
    CheckOutcome where
  report := ⟨request.path, source, findings (request.voidNames settings) source,
    request.shownLimit settings⟩
  format := request.format.getD settings.format
  quiet := quiet
  failOnError := request.failOnError || settings.failOnError

/-- That the source has been read, unless it comes in on standard input. -/
def readEvents (request : CheckRequest) (source : List Char) : List LogEvent :=
  if request.path = stdinPath then [] else [.sourceRead request.path (byteLength source)]

/-- What happens in the check of a source. -/
def checkEvents (request : CheckRequest) (settings : Settings) (source : List Char) :
    List LogEvent :=
  let void := request.voidNames settings
  (walk [] (nestingTags void source)).1.flatMap Step.events ++
    [.checked request.path (findings void source).length]

end CheckRequest

/-- That the user's settings are looked for, if there is a place for them. -/
def Surroundings.settingsEvents (surroundings : Surroundings) : List LogEvent :=
  match surroundings.user with
  | some user => [.userSettings user.wholePath]
  | none => []

/-- The settings. -/
def Surroundings.settings (surroundings : Surroundings) : Except CheckFailure Settings :=
  (loadSettings surroundings.files (surroundings.user.map UserSettings.file)).mapError .settings

/-- The events of a check and what it comes to. -/
def performCheck (surroundings : Surroundings) (quiet : Bool) (request : CheckRequest) :
    List LogEvent × Except CheckFailure CheckOutcome :=
  let settingsEvents := surroundings.settingsEvents
  match surroundings.settings with
  | .error failure => (settingsEvents, .error failure)
  | .ok settings =>
      match request.source surroundings with
      | .error failure => (settingsEvents, .error failure)
      | .ok source =>
          (settingsEvents ++ request.readEvents source ++ request.checkEvents settings source,
            .ok (request.outcome settings quiet source))

end TagNesting
