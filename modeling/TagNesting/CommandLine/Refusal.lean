import TagNesting.CommandLine.Flag

/-!
# Refusals

What happens to a command line that asks for no check: either it asks for help or for the
version, which it gets, or there is something wrong with it. Then the answer says what,
makes a suggestion if there is one, and says how the program is used.

## Main definitions

* `Suggestion`: What may have been meant by an argument that is not known.
* `Refusal`: Why a command line asks for no check.
* `Refusal.text`: What is printed.
* `Refusal.isHelp`: The command line gets what it asks for.
-/

namespace TagNesting

/-- What may have been meant by an argument that is not known. -/
inductive Suggestion where
  /-- Nothing is known. -/
  | none
  /-- The argument as an operand, which goes behind two hyphens. -/
  | asOperand
  /-- A flag with a similar name. -/
  | similarFlag (flag : Flag)
  /-- A flag of the command that checks. -/
  | flagOfCheck (flag : Flag)
  /-- A command, which goes before the two hyphens. -/
  | command
  deriving DecidableEq, Repr

/-- Why a command line asks for no check. -/
inductive Refusal where
  /-- It asks for a help page. -/
  | help (scope : Scope)
  /-- It asks for the version. -/
  | version
  /-- There are no arguments. -/
  | noArguments
  /-- There are flags but no command. -/
  | missingCommand
  /-- There is no path, whatever flags there are. -/
  | missingPath (used : List Flag)
  /-- An argument is not known. Flags are named that help to show how it should be. -/
  | unknownArgument (scope : Scope) (argument : List Char) (suggestion : Suggestion)
      (used : List Flag)
  /-- A command is not known. Commands with similar names are given. -/
  | unknownCommand (scope : Scope) (name : List Char) (similar : List (List Char))
  /-- A flag lacks its value. -/
  | missingValue (flag : Flag)
  /-- The value of a flag is not one. -/
  | badValue (flag : Flag) (value reason : List Char)
  /-- A flag has a value but takes none. -/
  | unexpectedValue (scope : Scope) (flag : Flag) (value : List Char) (used : List Flag)
  /-- A flag is repeated that cannot be. -/
  | repeated (scope : Scope) (flag : Flag)
  /-- Two flags exclude each other. -/
  | conflict (scope : Scope) (flag other : Flag) (used : List Flag)
  deriving DecidableEq, Repr

namespace Refusal

/-- The command line gets what it asks for. -/
def isHelp : Refusal → Bool
  | help _ => true
  | version => true
  | _ => false

/-- A text in single quotes. -/
def inQuotes (cs : List Char) : List Char := '\'' :: cs ++ ['\'']

/-- A suggestion, or the lack of one, behind an error. -/
def tip (text : List Char) : List Char :=
  if text.isEmpty then [] else "\n\n  tip: ".toList ++ text

/-- What a suggestion says about an argument. -/
def suggestionText (argument : List Char) : Suggestion → List Char
  | .none => []
  | .asOperand =>
      "to pass ".toList ++ inQuotes argument ++ " as a value, use ".toList ++
        inQuotes ("-- ".toList ++ argument)
  | .similarFlag flag =>
      "a similar argument exists: ".toList ++ inQuotes ('-' :: '-' :: flag.name)
  | .flagOfCheck flag => inQuotes ("check --".toList ++ flag.name) ++ " exists".toList
  | .command =>
      "subcommand ".toList ++ inQuotes argument ++
        " exists; to use it, remove the '--' before it".toList

/-- What the names of similar commands say. -/
def similarText (similar : List (List Char)) : List Char :=
  let names := [',', ' '].intercalate (similar.map inQuotes)
  match similar with
  | [] => []
  | [_] => "a similar subcommand exists: ".toList ++ names
  | _ => "some similar subcommands exist: ".toList ++ names

/-- The usage below an error. -/
def below (usage : List Char) : List Char := ['\n', '\n'] ++ usage

/-- What is wrong, with a suggestion and with the usage where there are such. -/
def explanation : Refusal → List Char
  | missingCommand =>
      "'tagcheck' requires a subcommand but one was not provided\n".toList ++
        "  [subcommands: check, help]".toList ++ below (Scope.usage .program [])
  | missingPath used =>
      "the following required arguments were not provided:\n  <PATH>".toList ++
        below (Scope.usageWith .check used)
  | unknownArgument scope argument suggestion used =>
      "unexpected argument ".toList ++ inQuotes argument ++ " found".toList ++
        tip (suggestionText argument suggestion) ++ below (scope.usage used)
  | unknownCommand scope name similar =>
      "unrecognized subcommand ".toList ++ inQuotes name ++ tip (similarText similar) ++
        below (scope.usage [])
  | missingValue flag =>
      "a value is required for ".toList ++ inQuotes flag.shown ++
        " but none was supplied".toList
  | badValue flag value reason =>
      "invalid value ".toList ++ inQuotes value ++ " for ".toList ++ inQuotes flag.shown ++
        [':', ' '] ++ reason
  | unexpectedValue scope flag value used =>
      "unexpected value ".toList ++ inQuotes value ++ " for ".toList ++ inQuotes flag.shown ++
        " found; no more were expected".toList ++ below (scope.usage used)
  | repeated scope flag =>
      "the argument ".toList ++ inQuotes flag.shown ++ " cannot be used multiple times".toList ++
        below (scope.usage [])
  | conflict scope flag other used =>
      "the argument ".toList ++ inQuotes flag.shown ++ " cannot be used with ".toList ++
        inQuotes other.shown ++ below (scope.usageWith used)
  | _ => []

/-- There is a help page for where the error is. -/
def offersHelp : Refusal → Bool
  | unknownCommand .help _ _ => false
  | _ => true

/-- What is printed. -/
def text : Refusal → List Char
  | help scope => scope.helpPage
  | version => versionText
  | noArguments => Scope.helpPage .program
  | refusal =>
      "error: ".toList ++ refusal.explanation ++
        (if refusal.offersHelp then "\n\nFor more information, try '--help'.\n".toList
          else ['\n'])

end Refusal

end TagNesting
