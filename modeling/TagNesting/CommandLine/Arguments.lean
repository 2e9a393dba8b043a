import TagNesting.CommandLine.Refusal
import TagNesting.Number.Whole
import TagNesting.OutputFormat
import TagNesting.Text.Similarity

/-!
# Arguments

The check that a command line asks for. Arguments are taken one by one. One that begins with
two hyphens is a flag by its name, with a value behind an equals sign or in the next
argument; one that begins with a single hyphen is a row of flags by their letters. What is
left is an operand, and so is everything behind two hyphens that stand alone.

The value of a flag, and the path, are looked at only when something else follows that is
known, or at the end. So of two faults the one further back can be the one that is found.
Whether flags exclude each other, and whether there is a path at all, is asked last, of the
command before the program.

## Main definitions

* `CheckRequest`: What a check is asked to do.
* `Request`: A check with what concerns the program as a whole.
* `Taken`: What has been taken from the arguments so far.
* `Pending`: What has been taken but not been looked at.
* `takeCheckArguments`, `takeProgramArguments`: The arguments of the command and of the
  program.
* `readArguments`: The check that a command line asks for.
-/

namespace TagNesting

/-- What a check is asked to do. -/
structure CheckRequest where
  /-- The path of the source. -/
  path : List Char
  /-- The format of the report, if it is given. -/
  format : Option OutputFormat
  /-- How many findings are shown, if it is given; zero shows all. -/
  limit : Option Nat
  /-- Findings make the check fail. -/
  failOnError : Bool
  /-- The names of void elements as they are given, none if they are not. -/
  voidElements : List (List Char)
  deriving DecidableEq, Repr

/-- A check with what concerns the program as a whole. -/
structure Request where
  /-- No report is printed. -/
  quiet : Bool
  /-- How often more logging is asked for. -/
  verbosity : Nat
  /-- The check. -/
  check : CheckRequest
  deriving DecidableEq, Repr

/-- What has been taken from the arguments so far. -/
structure Taken where
  /-- The flags, in the order in which they came up. -/
  used : List Flag := []
  /-- No report is printed. -/
  quiet : Bool := false
  /-- How often more logging is asked for. -/
  verbosity : Nat := 0
  /-- The format of the report. -/
  format : Option OutputFormat := none
  /-- How many findings are shown. -/
  limit : Option Nat := none
  /-- Findings make the check fail. -/
  failOnError : Bool := false
  /-- The names of void elements. -/
  voidElements : List (List Char) := []
  /-- The path. -/
  path : Option (List Char) := none
  deriving DecidableEq, Repr

/-- What has been taken but not been looked at. -/
inductive Pending where
  /-- Nothing. -/
  | nothing
  /-- A flag that lacks its value. -/
  | flag (flag : Flag)
  /-- A flag with its value. -/
  | value (flag : Flag) (value : List Char)
  /-- A path. -/
  | path (path : List Char)
  deriving DecidableEq, Repr

/-- The flags with one more. -/
def alsoUsed (used : List Flag) (flag : Flag) : List Flag :=
  if used.contains flag then used else used ++ [flag]

/-- The pieces of a text between commas. A text without commas is one piece. -/
def namesBetweenCommas : List Char → List (List Char)
  | [] => [[]]
  | c :: rest =>
      match namesBetweenCommas rest with
      | [] => [[c]]
      | name :: names => if c = ',' then [] :: name :: names else (c :: name) :: names

namespace Taken

/-- A flag with its value. A format or a limit can only be given once. -/
def withValue (scope : Scope) (flag : Flag) (value : List Char) (taken : Taken) :
    Except Refusal Taken :=
  let taken' := { taken with used := alsoUsed taken.used flag }
  match flag with
  | .void =>
      .ok { taken' with voidElements := taken.voidElements ++ namesBetweenCommas value }
  | .format =>
      if taken.used.contains flag then .error (.repeated scope flag)
      else
        match OutputFormat.ofName? value with
        | some format => .ok { taken' with format := some format }
        | none => .error (.badValue flag value (unknownFormatMessage value))
  | .limit =>
      if taken.used.contains flag then .error (.repeated scope flag)
      else
        match readWhole value with
        | .ok limit => .ok { taken' with limit := some limit }
        | .error fault => .error (.badValue flag value fault.text)
  | _ => .ok taken

/-- What is pending, looked at. -/
def settle (scope : Scope) (pending : Pending) (taken : Taken) : Except Refusal Taken :=
  match pending with
  | .nothing => .ok taken
  | .flag flag => .error (.missingValue flag)
  | .value flag value => taken.withValue scope flag value
  | .path path => .ok { taken with path := some path }

/-- The flags that have come up, counting one that is pending with its value, whether or not the
    value is one. A flag that cannot be repeated does not count at all once it has been. -/
def usedWith (pending : Pending) (taken : Taken) : List Flag :=
  match pending with
  | .value .void _ => alsoUsed taken.used .void
  | .value flag _ =>
      if taken.used.contains flag then taken.used.erase flag else taken.used ++ [flag]
  | _ => taken.used

/-- A flag without a value. Only the one for logging can be repeated, and then it counts as the
    one that came up last. -/
def withFlag (scope : Scope) (flag : Flag) (taken : Taken) : Except Refusal Taken :=
  let known := taken.used.contains flag
  match flag with
  | .help => .error (.help scope)
  | .version => .error .version
  | .verbose =>
      .ok { taken with used := taken.used.erase flag ++ [flag], verbosity := taken.verbosity + 1 }
  | .quiet =>
      if known then .error (.repeated scope flag)
      else .ok { taken with used := taken.used ++ [flag], quiet := true }
  | .failOnError =>
      if known then .error (.repeated scope flag)
      else .ok { taken with used := taken.used ++ [flag], failOnError := true }
  | _ => .ok taken

/-- Two flags that exclude each other are not both there. -/
def checkConflicts (scope : Scope) (taken : Taken) : Except Refusal Unit :=
  match taken.used.filter fun flag => flag == .quiet || flag == .verbose with
  | flag :: other :: _ => .error (.conflict scope flag other (taken.used.erase other))
  | _ => .ok ()

end Taken

/-- The flag with a letter. -/
def Scope.flagOfLetter? (scope : Scope) (letter : Char) : Option Flag :=
  scope.flags.find? fun flag => flag.letter? == some letter

/-- The flag with a name. -/
def Scope.flagOfName? (scope : Scope) (name : List Char) : Option Flag :=
  scope.flags.find? fun flag => flag.name == name

/-- The flag whose name is most like a given one, if there is a similar one. -/
def Scope.similarFlag? (scope : Scope) (name : List Char) : Option Flag :=
  match (similarWords name (scope.flags.map Flag.name)).getLast? with
  | some similar => scope.flagOfName? similar
  | none => none

/-- A name that no flag has. A similar one is suggested, and it may be one of the command if the
    command follows. Flags that have been used are given. -/
def unknownFlag (scope : Scope) (name : List Char) (rest : List (List Char))
    (used : List Flag) : Refusal :=
  let argument := '-' :: '-' :: name
  match scope.similarFlag? name with
  | some flag =>
      .unknownArgument scope argument (.similarFlag flag) (alsoUsed used flag)
  | none =>
      let suggestion : Suggestion :=
        if scope.hasOperand then .asOperand
        else if rest.contains "check".toList then
          match Scope.similarFlag? .check name with
          | some flag => .flagOfCheck flag
          | none => .none
        else .none
      .unknownArgument scope argument suggestion used

/-- A flag by its name, the text behind its hyphens given. The rest of the arguments only
    matters for suggestions. -/
def takeLong (scope : Scope) (text : List Char) (rest : List (List Char)) (pending : Pending)
    (taken : Taken) : Except Refusal (Taken × Pending) :=
  let name := text.takeWhile (· != '=')
  let value? := (text.dropWhile (· != '=')).tail?
  match scope.flagOfName? name with
  | none => .error (unknownFlag scope name rest (taken.usedWith pending))
  | some flag =>
      match flag.valueName?, value? with
      | some _, some value => do
          let settled ← taken.settle scope pending
          let taken' ← settled.withValue scope flag value
          .ok (taken', .nothing)
      | some _, none => do
          let settled ← taken.settle scope pending
          .ok (settled, .flag flag)
      | none, some value =>
          .error (.unexpectedValue scope flag value (alsoUsed taken.used flag))
      | none, none => do
          let settled ← taken.settle scope pending
          let taken' ← settled.withFlag scope flag
          .ok (taken', .nothing)

/-- A row of flags by their letters. -/
def takeLetters (scope : Scope) (pending : Pending) (taken : Taken) :
    List Char → Except Refusal (Taken × Pending)
  | [] => .ok (taken, pending)
  | letter :: rest =>
      match scope.flagOfLetter? letter with
      | none =>
          let suggestion : Suggestion := if scope.hasOperand then .asOperand else .none
          .error (.unknownArgument scope ['-', letter] suggestion [])
      | some flag => do
          let settled ← taken.settle scope pending
          let taken' ← settled.withFlag scope flag
          takeLetters scope .nothing taken' rest

/-- How an argument is to be taken that is not behind two hyphens. -/
inductive ArgumentForm where
  /-- Two hyphens alone. -/
  | separator
  /-- A flag by its name. -/
  | long (text : List Char)
  /-- A row of flags by their letters. -/
  | letters (letters : List Char)
  /-- Anything else. -/
  | plain
  deriving DecidableEq, Repr

/-- How an argument is to be taken. A hyphen alone is an operand. -/
def argumentForm : List Char → ArgumentForm
  | ['-', '-'] => .separator
  | '-' :: '-' :: text => .long text
  | '-' :: letter :: letters => .letters (letter :: letters)
  | _ => .plain

/-- A path, of which there can only be one. -/
def takePathOperand (argument : List Char) (pending : Pending) (taken : Taken) :
    Except Refusal (Taken × Pending) :=
  let present :=
    match pending with
    | .path _ => true
    | _ => taken.path.isSome
  if present then .error (.unknownArgument .check argument .none [])
  else do
    let settled ← taken.settle .check pending
    .ok (settled, .path argument)

/-- The arguments of the command that checks. -/
def takeCheckArguments (behindSeparator : Bool) (pending : Pending) (taken : Taken) :
    List (List Char) → Except Refusal Taken
  | [] => taken.settle .check pending
  | argument :: rest =>
      if behindSeparator then do
        let (taken', pending') ← takePathOperand argument pending taken
        takeCheckArguments true pending' taken' rest
      else
        match argumentForm argument with
        | .separator => takeCheckArguments true pending taken rest
        | .long text => do
            let (taken', pending') ← takeLong .check text rest pending taken
            takeCheckArguments false pending' taken' rest
        | .letters letters => do
            let (taken', pending') ← takeLetters .check pending taken letters
            takeCheckArguments false pending' taken' rest
        | .plain =>
            match pending with
            | .flag flag => takeCheckArguments false (.value flag argument) taken rest
            | _ => do
                let (taken', pending') ← takePathOperand argument pending taken
                takeCheckArguments false pending' taken' rest

/-- The check that the arguments of the command ask for, with what they say about the program
    as a whole. -/
def readCheckArguments (arguments : List (List Char)) : Except Refusal (Taken × CheckRequest) := do
  let taken ← takeCheckArguments false .nothing {} arguments
  taken.checkConflicts .check
  match taken.path with
  | none => .error (.missingPath taken.used)
  | some path =>
      .ok (taken, ⟨path, taken.format, taken.limit, taken.failOnError, taken.voidElements⟩)

/-- What the command that shows help answers. -/
def helpOn (scope : Scope) : List (List Char) → Refusal
  | [] => .help scope
  | name :: rest =>
      if scope = .program && name = "check".toList then helpOn .check rest
      else if scope = .program && name = "help".toList then helpOn .help rest
      else .unknownCommand scope name []

/-- An operand of the program that is no command in its place. -/
def strayOperand (behindSeparator : Bool) (argument : List Char) : Refusal :=
  if behindSeparator && commandNames.contains argument then
    .unknownArgument .program argument .command []
  else .unknownCommand .program argument (similarWords argument commandNames)

/-- The flags that both scopes have, put together. The quieter one of the two wins, and the
    command's own word on logging goes before that of the program. -/
def joinRequests (program command : Taken) (check : CheckRequest) : Request where
  quiet := program.quiet || command.quiet
  verbosity := if command.verbosity = 0 then program.verbosity else command.verbosity
  check := check

/-- The arguments of the program. -/
def takeProgramArguments (behindSeparator : Bool) (taken : Taken) :
    List (List Char) → Except Refusal Request
  | [] => .error (if taken.used.isEmpty then .noArguments else .missingCommand)
  | argument :: rest =>
      if behindSeparator then .error (strayOperand true argument)
      else if argument = "check".toList then do
        let (command, check) ← readCheckArguments rest
        taken.checkConflicts .program
        .ok (joinRequests taken command check)
      else if argument = "help".toList then .error (helpOn .program rest)
      else
        match argumentForm argument with
        | .separator => takeProgramArguments true taken rest
        | .long text => do
            let (taken', _) ← takeLong .program text rest .nothing taken
            takeProgramArguments false taken' rest
        | .letters letters => do
            let (taken', _) ← takeLetters .program .nothing taken letters
            takeProgramArguments false taken' rest
        | .plain => .error (strayOperand false argument)

/-- The check that a command line asks for. -/
def readArguments (arguments : List (List Char)) : Except Refusal Request :=
  takeProgramArguments false {} arguments

end TagNesting
