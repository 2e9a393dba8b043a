import Mathlib.Data.List.Forall2
import TagNesting.Json.Reader
import TagNesting.Proofs.DistinctNames
import TagNesting.Proofs.SettingSources

/-!
# Settings in Layers

What comes of four sources that each set some of the four settings: each setting has the
value of the highest source that sets it, whatever the others do with the other settings, or
its default if none does. A list of void elements is one value like the others.

A source is described by what a look-up in its document finds, in whichever of the two
languages it is written, so the theorem is about all documents in which the settings stand
as they should and no name is a path.

A limit can be any whole number that its language has: one of 64 bits without a sign in JSON,
with a sign in TOML, where a larger one makes the file no document. And a source is not
missing where there is no file by its name but one with one more ending.

## Main definitions

* `Layer`: What a source sets.
* `overlaid`: The settings of layers, the highest of them first.
* `Wording`: How the values of settings are written in a language.
* `Wording.Sets`: A document sets what a layer sets.
* `SettingsFile.Sets`, `UserSets`, `PackageSets`: So do the files of settings and the package.
* `Tells`, `Conveys`: The fields of a source tell a setting, or a layer.

## Theorems

* `readSetting_foldl`: A setting is that of the highest source that tells it.
* `settingsOf_eq_overlaid`: So are all four.
* `loadSettings_layers`: The settings that are loaded.
* `loadSettings_not_layers`: Where a limit cannot be had, and a source that is there for all that.
-/

namespace TagNesting

/-- What a source sets of the four settings. -/
structure Layer where
  /-- How many findings are shown at most. -/
  reportLimit : Option Nat := none
  /-- Whether findings make the check fail. -/
  failOnError : Option Bool := none
  /-- The names of void elements. -/
  voidElements : Option (List (List Char)) := none
  /-- The format of the report. -/
  format : Option OutputFormat := none

/-- The settings of layers, the highest of them first. -/
def overlaid (layers : List Layer) : Settings where
  reportLimit := (layers.findSome? Layer.reportLimit).getD 20
  failOnError := (layers.findSome? Layer.failOnError).getD false
  voidElements := layers.findSome? Layer.voidElements
  format := (layers.findSome? Layer.format).getD .text

/-- How the values of settings are written in a language with these values. -/
structure Wording (V : Type) where
  /-- A whole number. -/
  whole : Nat → V
  /-- A truth value. -/
  truth : Bool → V
  /-- A text. -/
  text : List Char → V
  /-- A list. -/
  list : List V → V

/-- The values of settings in TOML. -/
def tomlWording : Wording Toml.Value := ⟨fun n => .integer n, .bool, .text, .array⟩

/-- The values of settings in JSON. -/
def jsonWording : Wording Json := ⟨Json.ofNat, .bool, .text, .array⟩

/-- What is found for the four names is what a layer sets, and nothing where it sets
    nothing. -/
structure Wording.Sets {V : Type} (wording : Wording V) (look : List Char → Option V)
    (layer : Layer) : Prop where
  limit : look "report_limit".toList = layer.reportLimit.map wording.whole
  fail : look "fail_on_error".toList = layer.failOnError.map wording.truth
  names : look "void_elements".toList
    = layer.voidElements.map fun names => wording.list (names.map wording.text)
  format : look "format".toList = layer.format.map fun format => wording.text format.name

/-- What a file of settings sets: nothing if it is not there, else what its document does. What
    else is in the document has names that are no paths. -/
inductive SettingsFile.Sets (files : FileReader) (file : SettingsFile) : Layer → Prop where
  /-- The file is not there. -/
  | absent (h : file.Absent files) : Sets files file {}
  /-- The document sets it. -/
  | document {held : SettingsFile} {bytes : List UInt8} {table : List (List Char × Toml.Value)}
      {layer : Layer} (hheld : file.Holds files held bytes)
      (htable : Toml.readToml (decodeUtf8Lossy (dropByteOrderMark bytes)) = .ok table)
      (hnames : ∀ field ∈ table, IsPathless field.1)
      (h : tomlWording.Sets (fun name => table.lookup name) layer) : Sets files file layer

/-- What the user sets, who may have no file at all. -/
inductive UserSets (files : FileReader) : Option SettingsFile → Layer → Prop where
  /-- The user has no file. -/
  | nobody : UserSets files none {}
  /-- The file sets it. -/
  | file {file : SettingsFile} {layer : Layer} (h : file.Sets files layer) :
      UserSets files (some file) layer

/-- There is a package file that holds a JSON document. -/
def PackageHolds (files : FileReader) (package : Json) : Prop :=
  ∃ text, files.text packagePath = .ok text ∧ readJson text = .ok package

/-- There is no package file. -/
def PackageAbsent (files : FileReader) : Prop :=
  files.text packagePath = .error .notFound ∨ files.text packagePath = .error .notDirectory

/-- The package file has no member for settings, or one that is no object. -/
def Unmentioned (package : Json) : Prop :=
  ∀ fields, package.field? "tagcheck".toList ≠ some (.object fields)

/-- What the package file sets. A limit can be any whole number that is read as one. -/
inductive PackageSets (files : FileReader) : Layer → Prop where
  /-- There is no package file. -/
  | absent (h : PackageAbsent files) : PackageSets files {}
  /-- It has no object for settings. -/
  | unmentioned {package : Json} (hpackage : PackageHolds files package)
      (h : Unmentioned package) : PackageSets files {}
  /-- Its object for settings sets it. -/
  | document {package : Json} {fields : List (List Char × Json)} {layer : Layer}
      (hpackage : PackageHolds files package)
      (hfields : package.field? "tagcheck".toList = some (.object fields))
      (hnames : ∀ field ∈ fields, IsPathless field.1)
      (h : jsonWording.Sets (fun name => (Json.object fields).field? name) layer) :
      PackageSets files layer

/-- What the fields of a source tell of a setting: nothing, or a datum that is taken whole and
    read as the value. -/
inductive Tells {α : Type} (name : String) (read : Datum → Except SettingFault α)
    (fields : Fields) : Option α → Prop where
  | silent (h : fieldsAt name.toList fields = []) : Tells name read fields none
  | set {datum : Datum} {value : α} (h : fieldsAt name.toList fields = [(name.toList, datum)])
      (hwhole : datum.IsWhole) (hread : read datum = .ok value) :
      Tells name read fields (some value)

/-- The fields of a source tell what a layer sets. -/
structure Conveys (fields : Fields) (layer : Layer) : Prop where
  limit : Tells "report_limit" readLimit fields layer.reportLimit
  fail : Tells "fail_on_error" readFlag fields layer.failOnError
  names : Tells "void_elements" readNames fields (layer.voidElements.map some)
  format : Tells "format" readFormat fields layer.format

/-! ## Sources that tell layers -/

section Layers

variable {α : Type} {name : String} {read : Datum → Except SettingFault α}

/-- A setting is what the source on top tells, or what there was below if it tells nothing. -/
theorem readSetting_mergeFields (hplain : IsPlainName name.toList) {fields : Fields}
    {told : Option α} (h : Tells name read fields told) (below : Fields) (default : α) :
    readSetting (mergeFields below fields) name default read
      = told.elim (readSetting below name default read) .ok := by
  cases h with
  | silent h => exact readSetting_congr (get?_mergeFields_of_silent h below) default read
  | set h hwhole hread =>
      rw [readSetting_eq (get?_mergeFields_of_isWhole hplain h hwhole below), hread]
      rfl

/-- Under several sources a setting is what the highest of them tells that tells anything. -/
theorem readSetting_foldl (hplain : IsPlainName name.toList) {sources : List Fields}
    {layers : List Layer} {told : Layer → Option α}
    (h : List.Forall₂ (fun fields layer => Tells name read fields (told layer)) sources layers)
    (below : Fields) (default : α) :
    readSetting (sources.foldl mergeFields below) name default read
      = (layers.reverse.findSome? told).elim (readSetting below name default read) .ok := by
  -- From the lowest source up: what one source makes is what the next one is laid over.
  induction h generalizing below with
  | nil => rfl
  | cons htells _ ih =>
      rw [List.foldl_cons, ih, readSetting_mergeFields hplain htells, List.reverse_cons,
        List.findSome?_append, List.findSome?_singleton]
      cases List.findSome? told _ with
      | some value => rfl
      | none => rfl

theorem readSetting_nil (name : String) (default : α) (read : Datum → Except SettingFault α) :
    readSetting [] name default read = .ok default := rfl

-- The list of names is a setting that can be missing, so what a layer sets is wrapped once more.
theorem findSome?_map_some (layers : List Layer) :
    layers.findSome? (fun layer => layer.voidElements.map some)
      = (layers.findSome? Layer.voidElements).map some := by
  induction layers with
  | nil => rfl
  | cons layer layers ih =>
      rw [List.findSome?_cons, List.findSome?_cons, ih]
      cases layer.voidElements with
      | none => rfl
      | some names => rfl

/-- Sources that tell layers make the settings of these layers. -/
theorem settingsOf_eq_overlaid {sources : List Fields} {layers : List Layer}
    (h : List.Forall₂ Conveys sources layers) :
    settingsOf sources = .ok (overlaid layers.reverse) := by
  have helim : ∀ {β : Type} (found : Option β) (default : β),
      found.elim (Except.ok default : Except SettingFault β) .ok = .ok (found.getD default) := by
    intro β found default
    cases found with
    | none => rfl
    | some value => rfl
  rw [settingsOf, Settings.ofFields,
    readSetting_foldl (by decide) (h.imp fun _ _ hconveys => hconveys.limit),
    readSetting_foldl (by decide) (h.imp fun _ _ hconveys => hconveys.fail),
    readSetting_foldl (by decide) (h.imp fun _ _ hconveys => hconveys.names),
    readSetting_foldl (by decide) (h.imp fun _ _ hconveys => hconveys.format)]
  simp only [readSetting_nil, helim, findSome?_map_some]
  rw [overlaid]
  -- A list that is set and one that is not are told apart in the settings themselves.
  cases layers.reverse.findSome? Layer.voidElements with
  | none => rfl
  | some names => rfl

end Layers

/-! ## Documents that set layers -/

section Documents

variable {V : Type} {wording : Wording V} {look : List Char → Option V} {layer : Layer}
  {fields : Fields}

/-- What a look-up finds tells the setting, if the datum is taken whole and read as the value. -/
theorem tells_of_fieldsAt {α β : Type} {name : String} {read : Datum → Except SettingFault α}
    {said : Option β} {datum : β → Datum} (value : β → α)
    (hfields : fieldsAt name.toList fields
      = ((said.map datum).map fun datum => (name.toList, datum)).toList)
    (hread : ∀ b ∈ said, (datum b).IsWhole ∧ read (datum b) = .ok (value b)) :
    Tells name read fields (said.map value) := by
  cases said with
  | none => exact .silent hfields
  | some b => exact .set hfields (hread b rfl).1 (hread b rfl).2

/-- A document that sets a layer tells it, in any language whose values become the data that
    they should. -/
theorem Wording.Sets.conveys (h : wording.Sets look layer) (datum : V → Datum)
    (origin : Option (List Char))
    (hfields : ∀ name, fieldsAt name fields
      = (((look name).map datum).map fun datum => (name, datum)).toList)
    (hwhole : ∀ n, datum (wording.whole n) = .scalar (.integer n) origin)
    (htruth : ∀ value, datum (wording.truth value) = .scalar (.bool value) origin)
    (htext : ∀ value, datum (wording.text value) = .scalar (.text value) origin)
    (hlist : ∀ items, datum (wording.list items) = .list (items.map datum) origin) :
    Conveys fields layer := by
  have hlimit := hfields "report_limit".toList
  have hfail := hfields "fail_on_error".toList
  have hnames := hfields "void_elements".toList
  have hformat := hfields "format".toList
  rw [h.limit, @Option.map_map _ _ _ datum] at hlimit
  rw [h.fail, @Option.map_map _ _ _ datum] at hfail
  rw [h.names, @Option.map_map _ _ _ datum] at hnames
  rw [h.format, @Option.map_map _ _ _ datum] at hformat
  -- A list of names is one of the settings that can be missing, so its value is wrapped.
  refine ⟨?_, ?_, tells_of_fieldsAt some hnames ?_, ?_⟩
  · rw [← @Option.map_id' _ layer.reportLimit]
    refine tells_of_fieldsAt _ hlimit fun n _ => ?_
    rw [Function.comp_apply, hwhole]
    refine ⟨trivial, ?_⟩
    rw [readLimit, if_neg (Int.not_lt.mpr (Int.natCast_nonneg n)), Int.toNat_natCast]
  · rw [← @Option.map_id' _ layer.failOnError]
    refine tells_of_fieldsAt _ hfail fun value _ => ?_
    rw [Function.comp_apply, htruth]
    exact ⟨trivial, rfl⟩
  · intro names _
    have hitems : datum ∘ wording.text = fun name => Datum.scalar (.text name) origin :=
      funext htext
    rw [Function.comp_apply, hlist, List.map_map, hitems]
    exact ⟨trivial, readNames_texts names origin origin⟩
  · rw [← @Option.map_id' _ layer.format]
    refine tells_of_fieldsAt _ hformat fun format _ => ?_
    rw [Function.comp_apply, htext]
    exact ⟨trivial, formatOfName_name format⟩

/-- A source that is not there sets nothing. -/
theorem conveys_nil : Conveys [] {} := ⟨.silent rfl, .silent rfl, .silent rfl, .silent rfl⟩

/-- Where no name is a path, what a TOML table has at a name is what a look-up in it finds. -/
theorem fieldsAt_ofTomlFields_eq_lookup {table : List (List Char × Toml.Value)}
    (hnodup : (table.map Prod.fst).Nodup) (hnames : ∀ field ∈ table, IsPathless field.1)
    (origin : Option (List Char)) (name : List Char) :
    fieldsAt name (Datum.ofTomlFields origin table)
      = (((table.lookup name).map (Datum.ofToml origin)).map fun datum => (name, datum)).toList := by
  rw [fieldsAt_ofTomlFields, fieldsAt_eq_lookup hnodup hnames, ofTomlFields_eq_map]
  cases table.lookup name with
  | none => rfl
  | some value => rfl

/-- The fields of a file of settings tell what it sets, and it can be read. -/
theorem SettingsFile.Sets.exists_fields {files : FileReader} {file : SettingsFile}
    (h : file.Sets files layer) : ∃ fields, file.fields files = .ok fields ∧
      Conveys fields layer := by
  cases h with
  | absent h => exact ⟨[], h.fields_eq, conveys_nil⟩
  | @document held bytes table _ hheld htable hnames h =>
      have hread : file.fields files
          = .ok (Datum.ofTomlFields (some held.shownPath) table) := by
        rw [hheld.fields_eq, SettingsFile.fieldsOfBytes]
        simp only [htable]
      refine ⟨_, hread, h.conveys (Datum.ofToml (some held.shownPath)) (some held.shownPath)
        (fieldsAt_ofTomlFields_eq_lookup (Toml.nodup_readToml htable) hnames _) ?_ ?_ ?_ ?_⟩
      · exact fun n => by rw [tomlWording, Datum.ofToml]
      · exact fun value => by rw [tomlWording, Datum.ofToml]
      · exact fun value => by rw [tomlWording, Datum.ofToml]
      · exact fun items => by rw [tomlWording, Datum.ofToml, ofTomlItems_eq_map]

end Documents

/-! ## The package file -/

section Package

variable {files : FileReader} {package : Json} {layer : Layer}

-- The package file is there and read, or it is not there and says nothing.
theorem packageFields_of_absent (h : PackageAbsent files) : packageFields files = .ok [] := by
  rcases h with hmissing | hmissing
  · rw [packageFields, hmissing]
  · rw [packageFields, hmissing]

theorem packageFields_of_holds (h : PackageHolds files package) :
    packageFields files = .ok (fieldsOfPackage package) := by
  rcases h with ⟨text, htext, hpackage⟩
  rw [packageFields, htext]
  simp only [hpackage]

/-- A package file without an object for settings says nothing of them. -/
theorem fieldsOfPackage_of_unmentioned (h : Unmentioned package) :
    fieldsOfPackage package = [] := by
  rw [fieldsOfPackage.eq_def]
  split
  · rename_i fields hfields
    exact absurd hfields (h fields)
  · rfl

/-- Where no name is a path, what the table of a JSON object has at a name is what a look-up in the
    object finds. -/
theorem fieldsAt_ofJsonFields {fields : List (List Char × Json)}
    (hnames : ∀ field ∈ fields, IsPathless field.1) (name : List Char) :
    fieldsAt name (Datum.ofJsonFields [] fields)
      = ((((Json.object fields).field? name).map Datum.ofJson).map
          fun datum => (name, datum)).toList := by
  have hnil : (([] : Fields).map Prod.fst).Nodup := List.nodup_nil
  rw [fieldsAt_eq_lookup (nodup_ofJsonFields hnil fields), ← get?_eq_lookup, get?_ofJsonFields]
  · rw [show Fields.get? [] name = none from rfl, Option.or_none]
  · intro field hfield
    rcases mem_names_ofJsonFields (List.mem_map_of_mem hfield) with hnone | hname
    · cases hnone
    · rcases List.mem_map.mp hname with ⟨field', hfield', heq⟩
      exact heq ▸ hnames field' hfield'

theorem ofJsonItems_eq_map (items : List Json) :
    Datum.ofJsonItems items = items.map Datum.ofJson := by
  induction items with
  | nil => rfl
  | cons item items ih => rw [Datum.ofJsonItems, ih, List.map_cons]

/-- The fields of the package file tell what it sets. -/
theorem PackageSets.exists_fields (h : PackageSets files layer) :
    ∃ fields, packageFields files = .ok fields ∧ Conveys fields layer := by
  cases h with
  | absent h => exact ⟨[], packageFields_of_absent h, conveys_nil⟩
  | unmentioned hpackage h =>
      refine ⟨[], ?_, conveys_nil⟩
      rw [packageFields_of_holds hpackage, fieldsOfPackage_of_unmentioned h]
  | @document package fields _ hpackage hfields hnames h =>
      refine ⟨Datum.ofJsonFields [] fields, ?_,
        h.conveys Datum.ofJson none (fieldsAt_ofJsonFields hnames) ?_ ?_ ?_ ?_⟩
      · rw [packageFields_of_holds hpackage, fieldsOfPackage, hfields]
      · intro n
        simp only [jsonWording, Json.ofNat, Datum.ofJson, Datum.ofJsonNumber]
      · exact fun value => by rw [jsonWording, Datum.ofJson]
      · exact fun value => by rw [jsonWording, Datum.ofJson]
      · exact fun items => by rw [jsonWording, Datum.ofJson, ofJsonItems_eq_map]

/-- The user's fields tell what the user sets. -/
theorem UserSets.exists_fields {user : Option SettingsFile} (h : UserSets files user layer) :
    ∃ fields, userFields files user = .ok fields ∧ Conveys fields layer := by
  cases h with
  | nobody => exact ⟨[], rfl, conveys_nil⟩
  | file h => exact h.exists_fields

end Package

/-- Settings in layers. Where each source is absent or sets some of the four settings, the
    settings can be loaded, and each of them is that of the highest source that sets it, or its
    default. A package file without an object for settings is like none. -/
theorem loadSettings_layers (files : FileReader) (user : Option SettingsFile) :
    (∀ {own package hidden main : Layer}, UserSets files user own → PackageSets files package →
      hiddenSettingsFile.Sets files hidden → mainSettingsFile.Sets files main →
        loadSettings files user = .ok (overlaid [main, hidden, package, own])) ∧
      ∀ {other : FileReader} {package : Json}, PackageHolds files package →
        Unmentioned package → PackageAbsent other →
          (∀ file ∈ tomlFiles user, other file.path = files file.path ∧
            other file.withEnding.path = files file.withEnding.path) →
              loadSettings files user = loadSettings other user := by
  refine ⟨?_, ?_⟩
  · intro own package hidden main hown hpackage hhidden hmain
    rcases hown.exists_fields with ⟨ownFields, hownFields, hown⟩
    rcases hpackage.exists_fields with ⟨packageFields, hpackageFields, hpackage⟩
    rcases hhidden.exists_fields with ⟨hiddenFields, hhiddenFields, hhidden⟩
    rcases hmain.exists_fields with ⟨mainFields, hmainFields, hmain⟩
    -- Each source conveys what it sets, and what they convey together is what lies on top.
    have hlayers : List.Forall₂ Conveys [ownFields, packageFields, hiddenFields, mainFields]
        [own, package, hidden, main] :=
      .cons hown (.cons hpackage (.cons hhidden (.cons hmain .nil)))
    rw [loadSettings_of_sources hpackageFields hownFields hhiddenFields hmainFields,
      settingsOf_eq_overlaid hlayers]
    rfl
  · intro other package hpackage hunmentioned habsent hfiles
    -- A package file that says nothing of settings is as good as none.
    refine (loadSettings_congr ?_ hfiles).symm
    rw [packageFields_of_absent habsent, packageFields_of_holds hpackage,
      fieldsOfPackage_of_unmentioned hunmentioned]

section Directory

variable {texts : List (List Char × List Char)} {text : List Char}

/-- In a directory a file of settings sets what its text does. -/
theorem sets_directoryOf {file : SettingsFile} {table : List (List Char × Toml.Value)}
    {layer : Layer} (hlookup : texts.lookup file.path = some text)
    (hascii : IsAscii text) (hread : Toml.readToml text = .ok table)
    (hnames : ∀ field ∈ table, IsPathless field.1)
    (h : tomlWording.Sets (fun name => table.lookup name) layer) :
    file.Sets (directoryOf texts) layer := by
  refine .document (.named (directoryOf_eq_ok hlookup)) ?_ hnames h
  rw [decodeUtf8Lossy_dropByteOrderMark hascii, hread]

theorem packageHolds_directoryOf {package : Json} (hlookup : texts.lookup packagePath = some text)
    (hascii : IsAscii text) (hread : readJson text = .ok package) :
    PackageHolds (directoryOf texts) package :=
  ⟨text, text_directoryOf hlookup hascii, hread⟩

end Directory

/-- The user's own file of settings. -/
def ownSettingsFile : SettingsFile := ⟨"own.toml".toList, "own.toml".toList⟩

/-- Four sources of settings. The user and the package disagree on the void elements, the two files
    of the project on the format, and the package alone sets the limit, to the largest there is. -/
def layeredDirectory : FileReader := directoryOf
  [(ownSettingsFile.path, "void_elements=['br']".toList),
    (packagePath,
      ("\x7b\"tagcheck\":\x7b\"void_elements\":[\"hr\"]," ++
        "\"report_limit\":18446744073709551615\x7d\x7d").toList),
    (hiddenSettingsFile.path, "format='json'".toList),
    (mainSettingsFile.path, "format='pretty'\na.b=0".toList)]

/-- A directory with nothing but a package file that has a number for settings. -/
def unmentioningDirectory : FileReader :=
  directoryOf [(packagePath, "\x7b\"tagcheck\":3\x7d".toList)]

/-- Four sources come to the limit and the list of one, the format of another and a default, and a
    package file that has a number for settings is like none. -/
theorem loadSettings_layers_four :
    loadSettings layeredDirectory (some ownSettingsFile)
        = .ok ⟨18446744073709551615, false, some ["hr".toList], .pretty⟩ ∧
      loadSettings unmentioningDirectory none = loadSettings (directoryOf []) none := by
  refine ⟨?_, ?_⟩
  · have hown : Toml.readToml "void_elements=['br']".toList
        = .ok [("void_elements".toList, .array [.text "br".toList])] := by
      simp only [String.reduceToList]
      rfl
    have hpackage : readJson ("\x7b\"tagcheck\":\x7b\"void_elements\":[\"hr\"]," ++
        "\"report_limit\":18446744073709551615\x7d\x7d").toList
        = .ok (.object [("tagcheck".toList,
            .object [("void_elements".toList, .array [.text "hr".toList]),
              ("report_limit".toList, Json.ofNat 18446744073709551615)])]) := by
      simp only [String.reduceAppend, String.reduceToList]
      rfl
    have hhidden : Toml.readToml "format='json'".toList
        = .ok [("format".toList, .text "json".toList)] := by
      simp only [String.reduceToList]
      rfl
    have hmain : Toml.readToml "format='pretty'\na.b=0".toList
        = .ok [("format".toList, .text "pretty".toList),
          ("a".toList, .table [("b".toList, .integer 0)])] := by
      simp only [String.reduceToList]
      rfl
    have hownSets : UserSets layeredDirectory (some ownSettingsFile)
        ⟨none, none, some ["br".toList], none⟩ :=
      .file (sets_directoryOf rfl (by decide) hown (by decide) ⟨rfl, rfl, rfl, rfl⟩)
    have hpackageSets : PackageSets layeredDirectory ⟨some 18446744073709551615, none,
        some ["hr".toList], none⟩ :=
      .document (packageHolds_directoryOf rfl (by decide) hpackage) rfl (by decide)
        ⟨rfl, rfl, rfl, rfl⟩
    have hhiddenSets : hiddenSettingsFile.Sets layeredDirectory ⟨none, none, none, some .json⟩ :=
      sets_directoryOf rfl (by decide) hhidden (by decide) ⟨rfl, rfl, rfl, rfl⟩
    have hmainSets : mainSettingsFile.Sets layeredDirectory ⟨none, none, none, some .pretty⟩ :=
      sets_directoryOf rfl (by decide) hmain (by decide) ⟨rfl, rfl, rfl, rfl⟩
    exact (loadSettings_layers layeredDirectory (some ownSettingsFile)).1
      hownSets hpackageSets hhiddenSets hmainSets
  · have hpackage : readJson "\x7b\"tagcheck\":3\x7d".toList
        = .ok (.object [("tagcheck".toList, Json.ofNat 3)]) := by
      simp only [String.reduceToList]
      rfl
    have hunmentioned : Unmentioned (.object [("tagcheck".toList, Json.ofNat 3)]) := by
      intro fields hfields
      cases hfields
    exact (loadSettings_layers unmentioningDirectory none).2
      (packageHolds_directoryOf rfl (by decide) hpackage) hunmentioned (Or.inl rfl) (by decide)

/-- A directory whose file of settings sets a limit that is no whole number of TOML. -/
def farFileDirectory : FileReader :=
  directoryOf [(mainSettingsFile.path, "report_limit=9223372036854775808".toList)]

/-- A directory with a file of settings that has one more ending. -/
def endingDirectory : FileReader :=
  directoryOf [(mainSettingsFile.withEnding.path, "report_limit=3".toList)]

/-- With a limit that is no whole number of TOML nothing can be loaded. Where none of the four
    sources is there, a file with one more ending sets a limit all the same. -/
theorem loadSettings_not_layers :
    (loadSettings farFileDirectory none).toOption = none ∧
    (endingDirectory packagePath = .error .notFound ∧
      endingDirectory hiddenSettingsFile.path = .error .notFound ∧
      endingDirectory mainSettingsFile.path = .error .notFound ∧
      (loadSettings endingDirectory none).toOption = some ⟨3, false, none, .text⟩) := by
  refine ⟨?_, rfl, rfl, rfl, ?_⟩
  · decide +kernel
  · decide +kernel

end TagNesting
