import TagNesting.Check
import TagNesting.Log.Filter

/-!
# The Program

What the program prints and how it ends, given its arguments and all that it can read. A
command line that asks for a check gets one; any other gets an answer, on standard output
and with success if it is what was asked for, else on standard error.

The log goes to standard error, before anything else that is printed there. Which events
are in it is up to the log filter, if one is given that makes sense, else to the flags.

## Main definitions

* `Printed`: What is printed and how the program ends.
* `logText`: The log.
* `Request.run`: A check with its log.
* `runProgram`: The program.
-/

namespace TagNesting

/-- What is printed, and the status with which the program ends. -/
structure Printed where
  /-- The status. -/
  status : Nat
  /-- What is printed on standard output. -/
  stdout : List Char
  /-- What is printed on standard error. -/
  stderr : List Char
  deriving DecidableEq, Repr

/-- The status of a command line that is wrong, and of a check that comes to no report. -/
def failureStatus : Nat := 2

/-- The lines of the log. -/
def logText (filter : LogFilter) (events : List LogEvent) : List Char :=
  (events.filter filter.allows).flatMap LogEvent.line

/-- The filter for the log: the one that is given, if it makes sense, else the one for the
    flags. -/
def Request.logFilter (request : Request) (given : Option (List Char)) : LogFilter :=
  (given.bind LogFilter.ofText?).getD (LogFilter.ofVerbosity request.quiet request.verbosity)

/-- A check with its log. -/
def Request.run (request : Request) (surroundings : Surroundings) (filter : LogFilter) :
    Printed :=
  let (events, result) := performCheck surroundings request.quiet request.check
  let log := logText filter events
  match result with
  | .ok outcome => ⟨outcome.status, outcome.stdout, log ++ outcome.stderr⟩
  | .error failure => ⟨failureStatus, [], log ++ failure.text⟩

/-- The answer to a command line that asks for no check. -/
def Refusal.printed (refusal : Refusal) : Printed :=
  if refusal.isHelp then ⟨0, refusal.text, []⟩ else ⟨failureStatus, [], refusal.text⟩

/-- The program: what it prints for some arguments, given what it can read and the text of the
    log filter, if there is one. -/
def runProgram (surroundings : Surroundings) (filter : Option (List Char))
    (arguments : List (List Char)) : Printed :=
  match readArguments arguments with
  | .ok request => request.run surroundings (request.logFilter filter)
  | .error refusal => refusal.printed

end TagNesting
