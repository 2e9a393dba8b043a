import TagNesting.Files.Relative
import TagNesting.Program

/-!
# The Command Line Program

The program on a real system. It looks at the environment, reads every file that a check can
ask for, and then hands all of it to `runProgram`, which decides what is printed. Nothing is
read if the command line asks for no check.

## Main definitions

* `main`: The program.
-/

namespace TagNesting

/-- The number of a system error, which is given with either sign. -/
def errorNumber (code : UInt32) : Nat := min code.toNat (0 - code).toNat

/-- Why the system could not read a file. -/
def readFailureOf (error : IO.Error) : ReadFailure :=
  let other := ReadFailure.other error.toString.toList
  match error with
  | .noFileOrDirectory .. => .notFound
  | .inappropriateType _ code _ =>
      if errorNumber code = 21 then .isDirectory
      else if errorNumber code = 20 then .notDirectory
      else other
  | .invalidArgument _ code _ => if errorNumber code = 36 then .nameTooLong else other
  | .permissionDenied .. => .other "Permission denied (os error 13)".toList
  | _ => other

/-- What is behind a path. -/
def readPath (path : List Char) : IO (Except ReadFailure (List UInt8)) := do
  if path.contains '\x00' then return .error .nulInName
  if path.isEmpty then return .error .notFound
  try
    let content ← IO.FS.readBinFile (String.ofList path)
    return .ok content.toList
  catch error => return .error (readFailureOf error)

/-- Everything that comes in on standard input. -/
partial def readStream (stream : IO.FS.Stream) (sofar : ByteArray) : IO ByteArray := do
  let more ← stream.read 65536
  if more.isEmpty then return sofar
  readStream stream (sofar ++ more)

/-- The directory for the user's settings, which the environment names. -/
def configHome : IO (Option String) := do
  match ← IO.getEnv "XDG_CONFIG_HOME" with
  | some directory =>
      if directory.startsWith "/" then return some directory
  | none => pure ()
  match ← IO.getEnv "HOME" with
  | some home => return if home.isEmpty then none else some (home ++ "/.config")
  | none => return none

/-- The user's file of settings, seen from the current directory. -/
def userSettings : IO (Option UserSettings) := do
  let directory := (← IO.currentDir).toString.toList
  match ← configHome with
  | none => return none
  | some home =>
      let whole := home.toList ++ "/tagcheck/tagcheck.toml".toList
      return some ⟨⟨whole, relativePath directory whole⟩, whole⟩

/-- Every path that a check can read. -/
def pathsToRead (user : Option UserSettings) (request : CheckRequest) : List (List Char) :=
  let settings := [hiddenSettingsFile, mainSettingsFile] ++
    (user.map UserSettings.file).toList
  packagePath :: request.path ::
    settings.flatMap fun file => [file.path, file.withEnding.path]

/-- What a check can read. -/
def surroundingsFor (request : CheckRequest) : IO Surroundings := do
  let user ← userSettings
  let read ← (pathsToRead user request).mapM fun path => do
    return (path, ← readPath path)
  let stdin ←
    if request.path = CheckRequest.stdinPath then readStream (← IO.getStdin) ByteArray.empty
    else pure ByteArray.empty
  let files : FileReader := fun path =>
    match read.find? fun entry => entry.1 == path with
    | some entry => entry.2
    | none => .error .notFound
  return ⟨files, stdin.toList, user⟩

/-- What the program prints for some arguments. -/
def printedFor (arguments : List (List Char)) : IO Printed := do
  match readArguments arguments with
  | .error refusal => return refusal.printed
  | .ok request =>
      let filter := (← IO.getEnv "RUST_LOG").map String.toList
      return request.run (← surroundingsFor request.check) (request.logFilter filter)

end TagNesting

open TagNesting in
/-- The program. -/
def main (arguments : List String) : IO UInt32 := do
  let printed ← printedFor (arguments.map String.toList)
  (← IO.getStdout).putStr (String.ofList printed.stdout)
  (← IO.getStderr).putStr (String.ofList printed.stderr)
  return UInt32.ofNat printed.status
