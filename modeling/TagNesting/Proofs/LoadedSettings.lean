import TagNesting.Proofs.Merge
import TagNesting.Settings.Sources

/-!
# Settings That Are Loaded

What comes of the sources in two cases at the far ends. Where none of them is there, the
settings are the defaults. Where the one that counts most sets all four settings, they are
what it says: no source below it can add anything, for each of the four is a scalar or a
list, and these are taken whole.

## Main definitions

* `settingsTable`: A table of settings as a file would have it.
* `SaysSettings`: The bytes of a file that sets all four settings.
* `tableSettings?`: The four settings of a table that has nothing else.
* `Unconfigured`: No source of settings is there.
* `OthersLoad`: The sources other than the one that counts most can be loaded.

## Theorems

* `ofFields_eq_ok`: A table that has the four settings makes these settings.
* `saysSettings_of_tableSettings?`: A file that can be seen to set all four settings.
* `loadSettings_of_saysSettings`: The settings when one file sets all of them.
* `loadSettings_of_unconfigured`: The settings when there is no source.
-/

namespace TagNesting

/-- The four settings as a table of a file. -/
def settingsTable (format : OutputFormat) (limit : Nat) (fail : Bool)
    (names : List (List Char)) : List (List Char × Toml.Value) :=
  [("format".toList, .text format.name), ("report_limit".toList, .integer limit),
    ("fail_on_error".toList, .bool fail), ("void_elements".toList, .array (names.map .text))]

/-- The bytes of a file that sets the four settings, in any order and any way of writing. What
    else it has reaches into none of them. -/
def SaysSettings (bytes : List UInt8) (format : OutputFormat) (limit : Nat) (fail : Bool)
    (names : List (List Char)) : Prop :=
  ∃ table, Toml.readToml (decodeUtf8Lossy (dropByteOrderMark bytes)) = .ok table ∧
    ∀ field ∈ settingsTable format limit fail names, fieldsAt field.1 table = [field]

/-- The text that a value is, if it is one. -/
def Toml.Value.text? : Toml.Value → Option (List Char)
  | .text value => some value
  | _ => none

/-- The four settings that stand in a table in their order, if there are these and no others. -/
def tableSettings? : List (List Char × Toml.Value) →
    Option (List Char × Int × Bool × List (List Char))
  | [(a, .text format), (b, .integer limit), (c, .bool fail), (d, .array items)] =>
      if [a, b, c, d] = ["format".toList, "report_limit".toList, "fail_on_error".toList,
          "void_elements".toList] then
        (items.mapM Toml.Value.text?).map fun names => (format, limit, fail, names)
      else none
  | _ => none

/-- Nothing can be read of a file of settings: it is there and is unreadable, or it is not there and
    the one with one more ending cannot be read either. -/
def SettingsFile.Absent (file : SettingsFile) (files : FileReader) : Prop :=
  ∃ failure, files file.path = .error failure ∧
    (failure.isOfFile = true ∨ ∃ failure', files file.withEnding.path = .error failure')

/-- No source of settings is there. -/
structure Unconfigured (files : FileReader) (user : Option SettingsFile) : Prop where
  /-- There is no package file. -/
  package : files packagePath = .error .notFound
  /-- The user has no file. -/
  user : ∀ file ∈ user, file.Absent files
  /-- The directory has no hidden file. -/
  hidden : hiddenSettingsFile.Absent files
  /-- It has no other file either. -/
  main : mainSettingsFile.Absent files

/-- The sources other than the one that counts most can be loaded, whatever they hold. -/
structure OthersLoad (files : FileReader) (user : Option SettingsFile) : Prop where
  /-- The package file. -/
  package : ∃ fields, packageFields files = .ok fields
  /-- The file of the user. -/
  user : ∃ fields, userFields files user = .ok fields
  /-- The hidden file. -/
  hidden : ∃ fields, hiddenSettingsFile.fields files = .ok fields

/-! ## Reading the four settings -/

-- Items and fields become data one by one.
theorem ofTomlItems_eq_map (origin : Option (List Char)) (items : List Toml.Value) :
    Datum.ofTomlItems origin items = items.map (Datum.ofToml origin) := by
  induction items with
  | nil => rfl
  | cons item items ih => rw [Datum.ofTomlItems, ih, List.map_cons]

theorem ofTomlFields_eq_map (origin : Option (List Char)) (fields : List (List Char × Toml.Value)) :
    Datum.ofTomlFields origin fields
      = fields.map fun field => (field.1, Datum.ofToml origin field.2) := by
  induction fields with
  | nil => rfl
  | cons field fields ih => rw [Datum.ofTomlFields, ih, List.map_cons]

/-- A list of texts is read as the names that it has. -/
theorem readNames_texts (names : List (List Char)) (origin origin' : Option (List Char)) :
    readNames (.list (names.map fun name => .scalar (.text name) origin) origin')
      = .ok (some names) := by
  have hread : ∀ index, ((names.map fun name => Datum.scalar (.text name) origin).zipIdx
      index).mapM (fun (item, index) => readName index item) = Except.ok names := by
    induction names with
    | nil => exact fun _ => rfl
    | cons name names ih =>
        intro index
        rw [List.map_cons, List.zipIdx_cons, List.mapM_cons, ih]
        rfl
  rw [readNames, hread]
  rfl

/-- A format is read back from its name. -/
theorem formatOfName_name (format : OutputFormat) : formatOfName format.name = .ok format := by
  cases format with
  | text => rfl
  | json => rfl
  | pretty => rfl

-- A setting that a table has is read from what it has.
theorem readSetting_eq {α : Type} {fields : Fields} {name : String} {datum : Datum}
    (h : fields.get? name.toList = some datum) (default : α)
    (read : Datum → Except SettingFault α) :
    readSetting fields name default read = read datum := by
  rw [readSetting, h]

/-- A table that has the four settings makes these settings, whatever else it has. -/
theorem ofFields_eq_ok {fields : Fields} {format : OutputFormat} {limit : Nat} {fail : Bool}
    {names : List (List Char)} {origin : Option (List Char)}
    (h : ∀ field ∈ settingsTable format limit fail names,
      fields.get? field.1 = some (Datum.ofToml origin field.2)) :
    Settings.ofFields fields = .ok ⟨limit, fail, some names, format⟩ := by
  simp only [settingsTable, List.forall_mem_cons, List.not_mem_nil, false_imp_iff,
    implies_true, and_true] at h
  rcases h with ⟨hformat, hlimit, hfail, hnames⟩
  have hreadLimit : readLimit (Datum.ofToml origin (.integer limit)) = .ok limit := by
    simp only [Datum.ofToml, readLimit]
    rw [if_neg (Int.not_lt.mpr (Int.natCast_nonneg limit)), Int.toNat_natCast]
  have hreadNames : readNames (Datum.ofToml origin (.array (names.map .text)))
      = .ok (some names) := by
    rw [Datum.ofToml, ofTomlItems_eq_map, List.map_map]
    exact readNames_texts names origin origin
  have hreadFormat : readFormat (Datum.ofToml origin (.text format.name)) = .ok format :=
    formatOfName_name format
  rw [Settings.ofFields, readSetting_eq hlimit, readSetting_eq hfail, readSetting_eq hnames,
    readSetting_eq hformat, hreadLimit, hreadNames, hreadFormat]
  rfl

/-! ## Loading them -/

/-- What begins at a name does so before and after the table has become data. -/
theorem fieldsAt_ofTomlFields (name : List Char) (origin : Option (List Char))
    (table : List (List Char × Toml.Value)) :
    fieldsAt name (Datum.ofTomlFields origin table)
      = Datum.ofTomlFields origin (fieldsAt name table) := by
  rw [ofTomlFields_eq_map, ofTomlFields_eq_map, fieldsAt, List.filter_map]
  rfl

/-- What a source says of the four settings is what a table has under it. -/
theorem get?_mergeFields_settings {format : OutputFormat} {limit : Nat} {fail : Bool}
    {names : List (List Char)} {table : List (List Char × Toml.Value)}
    (h : ∀ field ∈ settingsTable format limit fail names, fieldsAt field.1 table = [field])
    (origin : Option (List Char)) (below : Fields) :
    ∀ field ∈ settingsTable format limit fail names,
      (mergeFields below (Datum.ofTomlFields origin table)).get? field.1
        = some (Datum.ofToml origin field.2) := by
  intro field hfield
  have hfields : fieldsAt field.1 (Datum.ofTomlFields origin table)
      = [(field.1, Datum.ofToml origin field.2)] := by
    rw [fieldsAt_ofTomlFields, h field hfield]
    rfl
  have hplain : ∀ name ∈ ["format".toList, "report_limit".toList, "fail_on_error".toList,
      "void_elements".toList], IsPlainName name := by decide
  have hname : field.1 ∈ (settingsTable format limit fail names).map Prod.fst :=
    List.mem_map_of_mem hfield
  refine get?_mergeFields_of_isWhole (hplain _ hname) hfields ?_ below
  simp only [settingsTable, List.mem_cons, List.not_mem_nil, or_false] at hfield
  -- Each of the four is a scalar or a list.
  rcases hfield with rfl | rfl | rfl | rfl
  all_goals exact trivial

theorem eq_map_text_of_mapM {items : List Toml.Value} {names : List (List Char)}
    (h : items.mapM Toml.Value.text? = some names) : items = names.map .text := by
  induction items generalizing names with
  | nil =>
      rw [List.mapM_nil] at h
      cases h
      rfl
  | cons item items ih =>
      rw [List.mapM_cons] at h
      rcases Option.bind_eq_some_iff.mp h with ⟨name, hname, h⟩
      rcases Option.bind_eq_some_iff.mp h with ⟨names', hnames, h⟩
      cases h
      cases item
      case text value =>
          cases hname
          rw [ih hnames, List.map_cons]
      all_goals cases hname

/-- A table whose four settings can be read off is the table of these settings. -/
theorem eq_settingsTable {table : List (List Char × Toml.Value)} {format : OutputFormat}
    {limit : Nat} {fail : Bool} {names : List (List Char)}
    (h : tableSettings? table = some (format.name, (limit : Int), fail, names)) :
    table = settingsTable format limit fail names := by
  rw [tableSettings?.eq_def] at h
  split at h
  · split at h
    · rename_i hkeys
      rcases Option.map_eq_some_iff.mp h with ⟨read, hread, hparts⟩
      rw [eq_map_text_of_mapM hread]
      cases hparts
      cases hkeys
      rfl
    · cases h
  · cases h

/-- A file whose table has the four settings in their order and nothing else sets them. -/
theorem saysSettings_of_tableSettings? {bytes : List UInt8} {format : OutputFormat} {limit : Nat}
    {fail : Bool} {names : List (List Char)}
    (h : (Toml.readToml (decodeUtf8Lossy (dropByteOrderMark bytes))).toOption.bind tableSettings?
      = some (format.name, (limit : Int), fail, names)) :
    SaysSettings bytes format limit fail names := by
  rcases Option.bind_eq_some_iff.mp h with ⟨table, htable, hsettings⟩
  refine ⟨table, ?_, ?_⟩
  · cases hread : Toml.readToml (decodeUtf8Lossy (dropByteOrderMark bytes)) with
    | error error =>
        rw [hread] at htable
        cases htable
    | ok read =>
        rw [hread] at htable
        cases htable
        rfl
  · rw [eq_settingsTable hsettings]
    intro field hfield
    simp only [settingsTable, List.mem_cons, List.not_mem_nil, or_false] at hfield
    rcases hfield with rfl | rfl | rfl | rfl
    all_goals rfl

/-- The sources are laid over one another from the user's up, if all of them can be read. -/
theorem settingsFields_eq {files : FileReader} {user : Option SettingsFile}
    {own package hidden main : Fields} (hpackage : packageFields files = .ok package)
    (hown : userFields files user = .ok own)
    (hhidden : hiddenSettingsFile.fields files = .ok hidden)
    (hmain : mainSettingsFile.fields files = .ok main) :
    settingsFields files user = .ok ([own, package, hidden, main].foldl mergeFields []) := by
  rw [settingsFields, hpackage, hown, hhidden, hmain]
  rfl

/-- The settings are those of the file that counts most, if it sets all of them. -/
theorem loadSettings_of_saysSettings {files : FileReader} {user : Option SettingsFile}
    {bytes : List UInt8} {format : OutputFormat} {limit : Nat} {fail : Bool}
    {names : List (List Char)} (hothers : OthersLoad files user)
    (hbytes : files mainSettingsFile.path = .ok bytes)
    (h : SaysSettings bytes format limit fail names) :
    loadSettings files user = .ok ⟨limit, fail, some names, format⟩ := by
  rcases hothers.package with ⟨package, hpackage⟩
  rcases hothers.user with ⟨own, hown⟩
  rcases hothers.hidden with ⟨hidden, hhidden⟩
  rcases h with ⟨table, htable, hfields⟩
  have hmain : mainSettingsFile.fields files
      = .ok (Datum.ofTomlFields (some mainSettingsFile.shownPath) table) := by
    simp only [SettingsFile.fields, hbytes, SettingsFile.fieldsOfBytes, htable]
  -- What the other sources come to does not matter, only that they come to something.
  rw [loadSettings, settingsFields_eq hpackage hown hhidden hmain]
  have hsettings := ofFields_eq_ok (get?_mergeFields_settings hfields
    (some mainSettingsFile.shownPath) ([own, package, hidden].foldl mergeFields []))
  simp only [List.foldl_cons, List.foldl_nil] at hsettings ⊢
  simp only [bind, Except.bind, hsettings]
  rfl

/-- A file of settings is absent where nothing is found by either of its names. -/
theorem SettingsFile.absent_of_notFound {file : SettingsFile} {files : FileReader}
    (hfile : files file.path = .error .notFound)
    (hending : files file.withEnding.path = .error .notFound) : file.Absent files :=
  ⟨.notFound, hfile, Or.inr ⟨.notFound, hending⟩⟩

/-- A file that is absent says nothing, and that is no failure. -/
theorem SettingsFile.Absent.fields_eq {file : SettingsFile} {files : FileReader}
    (h : file.Absent files) : file.fields files = .ok [] := by
  rcases h with ⟨failure, hfile, hunreadable⟩
  rw [SettingsFile.fields, hfile]
  rcases hunreadable with hofFile | ⟨failure', hending⟩
  · simp only [hofFile, if_true]
  · -- Whether the file is there or not, there is nothing to be had.
    simp only [hending]
    exact ite_self _

/-- The settings are the defaults if there is no source. -/
theorem loadSettings_of_unconfigured {files : FileReader} {user : Option SettingsFile}
    (h : Unconfigured files user) : loadSettings files user = .ok {} := by
  have hpackage : packageFields files = .ok [] := by
    rw [packageFields, FileReader.text, h.package]
    rfl
  have huser : userFields files user = .ok [] := by
    cases huser : user with
    | none => rfl
    | some file => exact (h.user file huser).fields_eq
  rw [loadSettings, settingsFields_eq hpackage huser h.hidden.fields_eq h.main.fields_eq]
  rfl

end TagNesting
