import TagNesting.Files.Reading
import TagNesting.Settings.Basic
import TagNesting.Settings.Merge

/-!
# Sources of Settings

Where settings come from: a file of the user, the `tagcheck` object of `package.json`, and
two files in the directory itself. Later sources are laid over earlier ones, and only what
comes out in the end is looked at, so a bad datum that is overruled does no harm.

Every source may be missing. Where there is no file of settings by its name, or a directory
has the name, a file of that name with one more ending is taken in its place. A file that is
there and cannot be read is as good as missing, and no other one is looked for then. Bytes
that are not UTF-8 are replaced, and a byte order mark is passed over. `package.json`, in
contrast, has to be readable and well formed if it is there, and that is settled before
anything else.

## Main definitions

* `SettingsFile`: A file of settings and how messages name it.
* `SettingsError`: Why there are no settings.
* `SettingsError.message`, `SettingsError.cause`: The error, and what is behind it.
* `packageFields`, `SettingsFile.fields`: What the sources hold.
* `loadSettings`: The settings.
-/

namespace TagNesting

/-- A file of settings. -/
structure SettingsFile where
  /-- The path by which it is read. -/
  path : List Char
  /-- The path by which messages name it. -/
  shownPath : List Char
  deriving DecidableEq, Repr

/-- Why there are no settings. -/
inductive SettingsError where
  /-- `package.json` cannot be read. -/
  | packageUnreadable (failure : ReadFailure)
  /-- `package.json` is no JSON document. -/
  | packageMalformed (error : JsonError)
  /-- A file of settings is no TOML document. The text says why. -/
  | fileMalformed (shownPath text : List Char)
  /-- The settings are not what they should be. -/
  | badSetting (fault : SettingFault)
  deriving DecidableEq, Repr

namespace SettingsError

/-- The error in one line. -/
def message : SettingsError → List Char
  | packageUnreadable _ => "Failed to read package.json".toList
  | packageMalformed _ => "Failed to parse package.json".toList
  | _ => "Configuration build/deserialize error".toList

/-- What is behind the error. -/
def cause : SettingsError → List Char
  | packageUnreadable failure => failure.message
  | packageMalformed error => error.message
  | fileMalformed shownPath text => text ++ " in ".toList ++ shownPath
  | badSetting fault => fault.message

end SettingsError

/-- The path of the package file. -/
def packagePath : List Char := "package.json".toList

/-- The file of settings that yields to the other one in the same directory. -/
def hiddenSettingsFile : SettingsFile := ⟨".tagcheck.toml".toList, ".tagcheck.toml".toList⟩

/-- The file of settings that counts most. -/
def mainSettingsFile : SettingsFile := ⟨"tagcheck.toml".toList, "tagcheck.toml".toList⟩

/-- What a package file says about settings. -/
def fieldsOfPackage (package : Json) : Fields :=
  match package.field? "tagcheck".toList with
  | some (.object fields) => Datum.ofJsonFields [] fields
  | _ => []

/-- What the package file says about settings, if there is one. -/
def packageFields (files : FileReader) : Except SettingsError Fields :=
  match files.text packagePath with
  | .error .notFound => .ok []
  | .error .notDirectory => .ok []
  | .error failure => .error (.packageUnreadable failure)
  | .ok text =>
      match readJson text with
      | .error error => .error (.packageMalformed error)
      | .ok package => .ok (fieldsOfPackage package)

/-- Bytes less the byte order mark that they may begin with. -/
def dropByteOrderMark : List UInt8 → List UInt8
  | 0xEF :: 0xBB :: 0xBF :: rest => rest
  | bytes => bytes

namespace SettingsFile

/-- The ending that a file may have besides. -/
def ending : List Char := ".toml".toList

/-- The same file with one more ending. -/
def withEnding (file : SettingsFile) : SettingsFile :=
  ⟨file.path ++ ending, file.shownPath ++ ending⟩

/-- What a file holds that is there. -/
def fieldsOfBytes (file : SettingsFile) (bytes : List UInt8) : Except SettingsError Fields :=
  let text := decodeUtf8Lossy (dropByteOrderMark bytes)
  match Toml.readToml text with
  | .ok fields => .ok (Datum.ofTomlFields (some file.shownPath) fields)
  | .error error => .error (.fileMalformed file.shownPath (error.message text))

/-- What a file holds, if it is there and can be read. Only if it is not there, the one with one
    more ending is looked for. -/
def fields (files : FileReader) (file : SettingsFile) : Except SettingsError Fields :=
  match files file.path with
  | .ok bytes => file.fieldsOfBytes bytes
  | .error failure =>
      if failure.isOfFile then .ok []
      else
        match files file.withEnding.path with
        | .ok bytes => file.withEnding.fieldsOfBytes bytes
        | .error _ => .ok []

end SettingsFile

/-- What the file of the user holds, if there is one. -/
def userFields (files : FileReader) (user : Option SettingsFile) : Except SettingsError Fields :=
  match user with
  | some file => file.fields files
  | none => .ok []

/-- What all sources hold, laid over one another. -/
def settingsFields (files : FileReader) (user : Option SettingsFile) :
    Except SettingsError Fields := do
  let package ← packageFields files
  let own ← userFields files user
  let hidden ← hiddenSettingsFile.fields files
  let main ← mainSettingsFile.fields files
  .ok ([own, package, hidden, main].foldl mergeFields [])

/-- The settings for a directory, given the file of the user. -/
def loadSettings (files : FileReader) (user : Option SettingsFile) :
    Except SettingsError Settings := do
  let fields ← settingsFields files user
  (Settings.ofFields fields).mapError .badSetting

end TagNesting
