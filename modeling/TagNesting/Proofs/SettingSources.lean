import TagNesting.Proofs.LoadedSettings

/-!
# Sources Laid over One Another

Scalars and lists are taken whole, and all settings are read of those. So for a setting it is
enough to know which source is the last one to say anything of it: what that one says counts,
and what the sources below it say does not. One that says nothing of a setting leaves it as
the sources below it have it.

A file of settings can be there under its own name or, if there is no file by that name, under
its name with one more ending.

## Main definitions

* `settingsOf`: The settings that sources make, the lowest of them first.
* `tomlFiles`: The files of settings, the lowest of them first.
* `IsAscii`, `asciiBytes`: An ASCII text and its bytes.
* `directoryOf`: A directory of files with ASCII texts.
* `SettingsFile.Holds`: The bytes that are there for a file of settings.

## Theorems

* `get?_foldl_of_silent`: What no source says anything of stays as it was.
* `ofFields_congr`: Settings depend on what a table has for their four names.
* `loadSettings_of_sources`: The settings are those that the sources make.
* `absent_or_holds`: A file of settings is there under one of two names or not at all.
* `decode_asciiBytes`: An ASCII text is read back from its bytes.
* `text_directoryOf`, `fields_directoryOf`: What is read in a directory of such texts.
-/

namespace TagNesting

/-- The names of the four settings. -/
def settingNames : List (List Char) :=
  ["report_limit".toList, "fail_on_error".toList, "void_elements".toList, "format".toList]

/-- The settings that sources make, the lowest of them first. -/
def settingsOf (sources : List Fields) : Except SettingFault Settings :=
  Settings.ofFields (sources.foldl mergeFields [])

/-- The files of settings, the lowest of them first. -/
def tomlFiles (user : Option SettingsFile) : List SettingsFile :=
  user.toList ++ [hiddenSettingsFile, mainSettingsFile]

/-- A text of ASCII characters only. -/
def IsAscii (text : List Char) : Prop := ∀ c ∈ text, c.toNat < 0x80

instance (text : List Char) : Decidable (IsAscii text) := List.decidableBAll _ text

/-- The bytes of an ASCII text. -/
def asciiBytes (text : List Char) : List UInt8 := text.map fun c => UInt8.ofNat c.toNat

/-- A directory of files with these ASCII texts. -/
def directoryOf (texts : List (List Char × List Char)) : FileReader := fun path =>
  match texts.lookup path with
  | some text => .ok (asciiBytes text)
  | none => .error .notFound

/-- The bytes that are there for a file of settings, and the file that they are in. -/
inductive SettingsFile.Holds (files : FileReader) (file : SettingsFile) :
    SettingsFile → List UInt8 → Prop where
  /-- They are in the file itself. -/
  | named {bytes : List UInt8} (h : files file.path = .ok bytes) : Holds files file file bytes
  /-- It is not there, and they are in the file with one more ending. -/
  | ending {failure : ReadFailure} {bytes : List UInt8} (h : files file.path = .error failure)
      (hmissing : failure.isOfFile = false)
      (hending : files file.withEnding.path = .ok bytes) : Holds files file file.withEnding bytes

-- None of the four names has anything of a path in it, so each is one field.
theorem isPlainName_of_mem_settingNames :
    ∀ name ∈ settingNames, IsPlainName name := by decide

/-! ## What comes of a setting -/

section Merged

variable {name : List Char} {sources : List Fields}

/-- What no source says anything of stays as it was below them. -/
theorem get?_foldl_of_silent (h : ∀ fields ∈ sources, fieldsAt name fields = [])
    (below : Fields) : (sources.foldl mergeFields below).get? name = below.get? name := by
  induction sources generalizing below with
  | nil => rfl
  | cons source sources ih =>
      rw [List.forall_mem_cons] at h
      rw [List.foldl_cons, ih h.2, get?_mergeFields_of_silent h.1]

/-- A setting is read of what the table has under its name, and of nothing else. -/
theorem readSetting_congr {α : Type} {fields fields' : Fields} {name : String}
    (h : fields'.get? name.toList = fields.get? name.toList) (default : α)
    (read : Datum → Except SettingFault α) :
    readSetting fields' name default read = readSetting fields name default read := by
  rw [readSetting, readSetting, h]

/-- Settings depend on nothing but what a table has for their four names. -/
theorem ofFields_congr {fields fields' : Fields}
    (h : ∀ name ∈ settingNames, fields'.get? name = fields.get? name) :
    Settings.ofFields fields' = Settings.ofFields fields := by
  simp only [settingNames, List.forall_mem_cons, List.not_mem_nil, false_imp_iff, implies_true,
    and_true] at h
  rcases h with ⟨hlimit, hfail, hnames, hformat⟩
  rw [Settings.ofFields, Settings.ofFields, readSetting_congr hlimit, readSetting_congr hfail,
    readSetting_congr hnames, readSetting_congr hformat]

end Merged

/-! ## What the sources hold -/

section Sources

variable {files : FileReader} {file held : SettingsFile} {bytes : List UInt8}

/-- A file of settings is there under its name, under that name with one more ending, or not at all.
    -/
theorem absent_or_holds (file : SettingsFile) (files : FileReader) :
    file.Absent files ∨ ∃ held bytes, file.Holds files held bytes := by
  cases hfile : files file.path with
  | ok bytes => exact Or.inr ⟨file, bytes, .named hfile⟩
  | error failure =>
      cases hmissing : failure.isOfFile with
      | true => exact Or.inl ⟨failure, hfile, Or.inl hmissing⟩
      | false =>
          cases hending : files file.withEnding.path with
          | ok bytes => exact Or.inr ⟨file.withEnding, bytes, .ending hfile hmissing hending⟩
          | error failure' => exact Or.inl ⟨failure, hfile, Or.inr ⟨failure', hending⟩⟩

/-- The bytes that are there are the ones that are read, whichever of the two names they are under.
    -/
theorem SettingsFile.Holds.fields_eq (h : file.Holds files held bytes) :
    file.fields files = held.fieldsOfBytes bytes := by
  rcases h with hfile | ⟨hfile, hmissing, hending⟩
  · rw [SettingsFile.fields, hfile]
  · rw [SettingsFile.fields, hfile]
    simp only [hmissing, hending, Bool.false_eq_true, if_false]

/-- The settings are those that the sources make, if all of them can be read. -/
theorem loadSettings_of_sources {user : Option SettingsFile} {own package hidden main : Fields}
    (hpackage : packageFields files = .ok package) (hown : userFields files user = .ok own)
    (hhidden : hiddenSettingsFile.fields files = .ok hidden)
    (hmain : mainSettingsFile.fields files = .ok main) :
    loadSettings files user
      = (settingsOf [own, package, hidden, main]).mapError .badSetting := by
  rw [loadSettings, settingsFields_eq hpackage hown hhidden hmain]
  rfl

/-- A file of settings depends on what is under its two names, whatever else there is. -/
theorem fields_congr {other : FileReader} (hfile : other file.path = files file.path)
    (hending : other file.withEnding.path = files file.withEnding.path) :
    file.fields other = file.fields files := by
  rw [SettingsFile.fields, SettingsFile.fields, hfile, hending]

/-- Settings depend on nothing but the package file and the places of the files of settings. -/
theorem loadSettings_congr {other : FileReader} {user : Option SettingsFile}
    (hpackage : packageFields other = packageFields files)
    (h : ∀ file ∈ tomlFiles user, other file.path = files file.path ∧
      other file.withEnding.path = files file.withEnding.path) :
    loadSettings other user = loadSettings files user := by
  have hfields : ∀ file ∈ tomlFiles user, file.fields other = file.fields files :=
    fun file hfile => fields_congr (h file hfile).1 (h file hfile).2
  have hhidden : hiddenSettingsFile ∈ tomlFiles user :=
    List.mem_append_right _ List.mem_cons_self
  have hmain : mainSettingsFile ∈ tomlFiles user :=
    List.mem_append_right _ (List.mem_cons_of_mem _ List.mem_cons_self)
  have huser : userFields other user = userFields files user := by
    cases user with
    | none => rfl
    | some file => exact hfields file List.mem_cons_self
  rw [loadSettings, loadSettings, settingsFields, settingsFields, hpackage, huser,
    hfields _ hhidden, hfields _ hmain]

end Sources

/-! ## Directories of ASCII texts -/

section Ascii

variable {text path : List Char} {texts : List (List Char × List Char)}

-- A byte below 128 is the character with its number.
theorem takeChar_ofNat {n : Nat} (h : n < 0x80) (rest : List UInt8) :
    takeChar (UInt8.ofNat n) rest = (some n, rest) := by
  have hvalue : (UInt8.ofNat n).toNat = n := by
    rw [UInt8.toNat_ofNat', Nat.mod_eq_of_lt (by omega)]
  simp only [takeChar, hvalue, if_pos h]

/-- An ASCII text is read back from its bytes, whether or not there are replacements. -/
theorem decode_asciiBytes (h : IsAscii text) :
    decodeUtf8? (asciiBytes text) = some text ∧ decodeUtf8Lossy (asciiBytes text) = text := by
  induction text with
  | nil =>
      rw [asciiBytes, List.map_nil, decodeUtf8?, decodeUtf8Lossy]
      exact ⟨rfl, rfl⟩
  | cons c text ih =>
      rw [IsAscii, List.forall_mem_cons] at h
      have hchar := takeChar_ofNat h.1 (asciiBytes text)
      rw [asciiBytes, List.map_cons, ← asciiBytes, decodeUtf8?_cons hchar,
        decodeUtf8Lossy_cons hchar, (ih h.2).1, (ih h.2).2, Char.ofNat_toNat]
      exact ⟨rfl, rfl⟩

/-- A file of settings with an ASCII text holds that text: it begins with no byte order mark. -/
theorem decodeUtf8Lossy_dropByteOrderMark (h : IsAscii text) :
    decodeUtf8Lossy (dropByteOrderMark (asciiBytes text)) = text := by
  have hmark : dropByteOrderMark (asciiBytes text) = asciiBytes text := by
    rw [dropByteOrderMark.eq_def]
    split
    · rename_i heq
      rcases List.map_eq_cons_iff.mp heq with ⟨c, rest, rfl, hc, _⟩
      have hlt := h c List.mem_cons_self
      have hvalue := congrArg UInt8.toNat hc
      rw [UInt8.toNat_ofNat', Nat.mod_eq_of_lt (by omega)] at hvalue
      change c.toNat = 0xEF at hvalue
      omega
    · rfl
  rw [hmark, (decode_asciiBytes h).2]

/-- The bytes under a path of a directory are those of its text. -/
theorem directoryOf_eq_ok (hlookup : texts.lookup path = some text) :
    directoryOf texts path = .ok (asciiBytes text) := by
  rw [directoryOf, hlookup]

/-- The text under a path of a directory. -/
theorem text_directoryOf (hlookup : texts.lookup path = some text)
    (h : IsAscii text) : (directoryOf texts).text path = .ok text := by
  rw [FileReader.text, directoryOf_eq_ok hlookup]
  change textOfBytes (asciiBytes text) = _
  rw [textOfBytes, (decode_asciiBytes h).1]

/-- The fields of a file of settings in a directory. -/
theorem fields_directoryOf {file : SettingsFile} {table : List (List Char × Toml.Value)}
    (hlookup : texts.lookup file.path = some text) (h : IsAscii text)
    (hread : Toml.readToml text = .ok table) :
    file.fields (directoryOf texts) = .ok (Datum.ofTomlFields (some file.shownPath) table) := by
  have hheld : file.Holds (directoryOf texts) file (asciiBytes text) :=
    .named (directoryOf_eq_ok hlookup)
  rw [hheld.fields_eq, SettingsFile.fieldsOfBytes, decodeUtf8Lossy_dropByteOrderMark h]
  simp only [hread]

end Ascii

end TagNesting
