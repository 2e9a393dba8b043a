/-!
# Flags

What the command line offers: the program itself, its one command, and the flags of both.
Everything that is said about a flag, in a help page, in a usage line or in an error, is
built from the little that is laid down here.

Two flags belong to the program and its command alike and can be given to either.

## Main definitions

* `Flag`: The flags.
* `Flag.shown`: A flag as messages name it.
* `Scope`: The program, its command, or the command that shows help.
* `Scope.flags`: The flags that can be given to it.
* `Scope.usage`: How it is used.
* `Scope.helpPage`: All about it.
-/

namespace TagNesting

/-- The flags of the command line. -/
inductive Flag where
  /-- No report is printed. -/
  | quiet
  /-- More is logged; can be repeated. -/
  | verbose
  /-- A help page is shown. -/
  | help
  /-- The version is shown. -/
  | version
  /-- The format of the report. -/
  | format
  /-- How many findings are shown. -/
  | limit
  /-- Findings make the check fail. -/
  | failOnError
  /-- The names of void elements; can be repeated. -/
  | void
  deriving DecidableEq, Repr

namespace Flag

/-- The name of a flag, which goes behind two hyphens. -/
def name : Flag → List Char
  | quiet => "quiet".toList
  | verbose => "verbose".toList
  | help => "help".toList
  | version => "version".toList
  | format => "format".toList
  | limit => "limit".toList
  | failOnError => "fail-on-error".toList
  | void => "void".toList

/-- The letter of a flag, which goes behind one hyphen. -/
def letter? : Flag → Option Char
  | quiet => some 'q'
  | verbose => some 'v'
  | help => some 'h'
  | version => some 'V'
  | _ => none

/-- What the value of a flag is called, if it takes one. -/
def valueName? : Flag → Option (List Char)
  | format => some "FORMAT".toList
  | limit => some "LIMIT".toList
  | void => some "VOID_ELEMENTS".toList
  | _ => none

/-- What a flag is for. -/
def purpose : Flag → List Char
  | quiet => "Do not print the report. The exit status still reflects findings".toList
  | verbose => "Log scanning details to stderr (-v info, -vv debug, -vvv trace)".toList
  | help => "Print help".toList
  | version => "Print version".toList
  | format => "Output format [default: text, or `format` from config]".toList
  | limit => "Maximum number of findings to print; 0 prints all [default: 20]".toList
  | failOnError => "Exit with status 1 when any finding is reported".toList
  | void => "Replace the void element list (e.g. img,br,Icon)".toList

/-- A flag as messages name it: with its value, or with dots if it is a flag without one that can
    be repeated. -/
def shown (flag : Flag) : List Char :=
  let ending :=
    match flag.valueName? with
    | some value => ' ' :: '<' :: value ++ ['>']
    | none => if flag = verbose then "...".toList else []
  '-' :: '-' :: flag.name ++ ending

/-- A flag as a help page lists it, with its letter or with blanks in the place of one. -/
def listed (flag : Flag) : List Char :=
  match flag.letter? with
  | some letter => '-' :: letter :: ',' :: ' ' :: flag.shown
  | none => "    ".toList ++ flag.shown

end Flag

/-- What an argument is given to. -/
inductive Scope where
  /-- The program. -/
  | program
  /-- The command that checks a file. -/
  | check
  /-- The command that shows help. -/
  | help
  deriving DecidableEq, Repr

/-- A row of a help page: what is listed, and what it is for. -/
abbrev HelpRow : Type := List Char × List Char

/-- The rows of a part of a help page, what they are for lined up behind what is listed. -/
def helpRows (rows : List HelpRow) : List Char :=
  let width := rows.foldl (fun width row => max width row.1.length) 0
  rows.flatMap fun row =>
    [' ', ' '] ++ row.1 ++ List.replicate (width - row.1.length + 2) ' ' ++ row.2 ++ ['\n']

namespace Scope

/-- The flags that can be given, in the order in which names are compared with theirs. -/
def flags : Scope → List Flag
  | program => [.quiet, .verbose, .help, .version]
  | check => [.format, .limit, .failOnError, .void, .quiet, .verbose, .help]
  | help => []

/-- The flags in the order in which a help page lists them. -/
def listedFlags : Scope → List Flag
  | program => [.quiet, .verbose, .help, .version]
  | check => [.format, .limit, .quiet, .failOnError, .verbose, .void, .help]
  | help => []

/-- What has to be typed for it. -/
def invocation : Scope → List Char
  | program => "tagcheck".toList
  | check => "tagcheck check".toList
  | help => "tagcheck help".toList

/-- What goes behind the flags. -/
def operand : Scope → List Char
  | program => " <COMMAND>".toList
  | check => " <PATH>".toList
  | help => " [COMMAND]...".toList

/-- Something besides flags can be given that is no command. -/
def hasOperand : Scope → Bool
  | program => false
  | _ => true

/-- How it is used, with the given flags. -/
def usageWith (scope : Scope) (used : List Flag) : List Char :=
  "Usage: ".toList ++ scope.invocation ++ (used.flatMap fun flag => ' ' :: flag.shown) ++
    scope.operand

/-- How it is used. If flags have been given, they are the ones that are named. -/
def usage (scope : Scope) (used : List Flag) : List Char :=
  if used.isEmpty && !scope.flags.isEmpty then
    "Usage: ".toList ++ scope.invocation ++ " [OPTIONS]".toList ++ scope.operand
  else scope.usageWith used

/-- What it is for. -/
def purpose : Scope → List Char
  | program => "Report unbalanced and mismatched tags in JSX-like markup".toList
  | check => "Check one file for unbalanced or mismatched tags".toList
  | help => "Print this message or the help of the given subcommand(s)".toList

/-- The part of a help page above the flags. -/
def helpOperands : Scope → List Char
  | program =>
      "Commands:\n".toList ++
        helpRows [("check".toList, check.purpose), ("help".toList, help.purpose)]
  | check =>
      "Arguments:\n".toList ++
        helpRows [("<PATH>".toList, "File to check. Use `-` to read from stdin".toList)]
  | help =>
      "Arguments:\n".toList ++
        helpRows [("[COMMAND]...".toList, "Print help for the subcommand(s)".toList)]

/-- The part of a help page about the flags. -/
def helpFlags (scope : Scope) : List Char :=
  match scope.listedFlags with
  | [] => []
  | flags =>
      "\nOptions:\n".toList ++ helpRows (flags.map fun flag => (flag.listed, flag.purpose))

/-- All about it. -/
def helpPage (scope : Scope) : List Char :=
  scope.purpose ++ ['\n', '\n'] ++ scope.usage [] ++ ['\n', '\n'] ++ scope.helpOperands ++
    scope.helpFlags

end Scope

/-- The names of the commands. -/
def commandNames : List (List Char) := ["check".toList, "help".toList]

/-- The program with its version. -/
def versionText : List Char := "tagcheck 0.1.0\n".toList

end TagNesting
