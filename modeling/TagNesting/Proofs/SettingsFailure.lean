import TagNesting.Proofs.ExitStatus
import TagNesting.Proofs.SettingSources

/-!
# How Settings Fail

Loading settings goes through three phases, and which error wins is decided by the phase and
not by how much a source counts. The package file comes first: if it is there and cannot be
read or is no JSON document, nothing that the files of settings hold makes a difference. Then
the files of settings are read from the lowest to the highest, and the first that is no TOML
document is the one that is blamed. Only then are data looked at, and only those that are left
when the sources have been laid over one another.

So a bad datum is no fault of its source. Under a source that sets the same setting it might
as well not be there, and where no source above it says anything of the setting it makes
loading fail, whatever else there is.

## Main definitions

* `PackageFails`: The package file is there and makes loading fail.
* `SettingsFile.Fails`: A file of settings is there and is no TOML document.
* `SourcesHold`: What the four sources hold, if all of them can be read.
* `FailsAlone`: A datum that makes loading fail if it is the only one.
* `RefusesAt`: What a table has for a setting cannot be taken.

## Theorems

* `fails_iff`, `packageFails_iff`: The failures are those of reading a source.
* `mapM_eq_error`: The first failure in a list wins.
* `ofFields_eq_error_iff`: A table makes no settings if one of the four cannot be taken.
* `settingsOf_overruled`: A datum that is overruled makes no difference.
* `settingsOf_of_failsAlone`: A bad datum that is not makes loading fail.
* `loadSettings_failures`: How loading settings fails.
-/

namespace TagNesting

/-- The package file is there and makes loading fail. -/
inductive PackageFails (files : FileReader) : SettingsError → Prop where
  /-- It cannot be read, though not because there is none, or is not UTF-8. -/
  | unreadable {failure : ReadFailure} (h : files.text packagePath = .error failure)
      (hfound : failure ≠ .notFound) (hdirectory : failure ≠ .notDirectory) :
      PackageFails files (.packageUnreadable failure)
  /-- It is no JSON document. -/
  | malformed {text : List Char} {error : JsonError} (htext : files.text packagePath = .ok text)
      (h : readJson text = .error error) : PackageFails files (.packageMalformed error)

/-- A file of settings is there and is no TOML document. The error names the file that its bytes
    are in. -/
inductive SettingsFile.Fails (files : FileReader) (file : SettingsFile) : SettingsError → Prop where
  /-- Its bytes, as far as they are a text, are no document. -/
  | malformed {held : SettingsFile} {bytes : List UInt8} {text : List Char}
      {error : Toml.SyntaxError} (hheld : file.Holds files held bytes)
      (htext : text = decodeUtf8Lossy (dropByteOrderMark bytes))
      (h : Toml.readToml text = .error error) :
      Fails files file (.fileMalformed held.shownPath (error.message text))

/-- What the four sources hold, the lowest of them first. -/
inductive SourcesHold (files : FileReader) (user : Option SettingsFile) : List Fields → Prop where
  /-- All of them can be read. -/
  | intro {own package hidden main : Fields} (hpackage : packageFields files = .ok package)
      (hown : userFields files user = .ok own)
      (hhidden : hiddenSettingsFile.fields files = .ok hidden)
      (hmain : mainSettingsFile.fields files = .ok main) :
      SourcesHold files user [own, package, hidden, main]

/-- A datum for a setting makes loading fail if it is all that there is. -/
def FailsAlone (name : List Char) (datum : Datum) : Prop :=
  ∃ fault, settingsOf [[(name, datum)]] = .error fault

/-- What a table has for a setting cannot be taken. -/
inductive RefusesAt (fields : Fields) : List Char → Prop where
  | limit {fault : SettingFault}
      (h : readSetting fields "report_limit" 20 readLimit = .error fault) :
      RefusesAt fields "report_limit".toList
  | fail {fault : SettingFault}
      (h : readSetting fields "fail_on_error" false readFlag = .error fault) :
      RefusesAt fields "fail_on_error".toList
  | names {fault : SettingFault}
      (h : readSetting fields "void_elements" none readNames = .error fault) :
      RefusesAt fields "void_elements".toList
  | format {fault : SettingFault}
      (h : readSetting fields "format" .text readFormat = .error fault) :
      RefusesAt fields "format".toList

/-! ## Sources that cannot be read -/

section Reading

variable {files : FileReader} {user : Option SettingsFile} {file : SettingsFile}
  {error : SettingsError}

/-- The one way in which a file of settings makes loading fail is by what its bytes say. -/
theorem fails_iff : file.Fails files error ↔ file.fields files = .error error := by
  constructor
  · rintro ⟨hheld, rfl, h⟩
    rw [hheld.fields_eq, SettingsFile.fieldsOfBytes]
    simp only [h]
  · intro h
    rcases absent_or_holds file files with habsent | ⟨held, bytes, hheld⟩
    · rw [habsent.fields_eq] at h
      cases h
    · rw [hheld.fields_eq, SettingsFile.fieldsOfBytes] at h
      cases hread : Toml.readToml (decodeUtf8Lossy (dropByteOrderMark bytes)) with
      | ok table =>
          simp only [hread] at h
          cases h
      | error fault =>
          simp only [hread] at h
          cases h
          exact .malformed hheld rfl hread

/-- The package file makes loading fail by not being readable or by what its text says. -/
theorem packageFails_iff : PackageFails files error ↔ packageFields files = .error error := by
  constructor
  · rintro (⟨h, hfound, hdirectory⟩ | ⟨htext, h⟩)
    · rw [packageFields, h]
      split
      · rename_i heq
        exact absurd (Except.error.inj heq) hfound
      · rename_i heq
        exact absurd (Except.error.inj heq) hdirectory
      · rename_i heq
        rw [Except.error.inj heq]
      · rename_i heq
        cases heq
    · rw [packageFields, htext]
      simp only [h]
  · intro h
    rw [packageFields] at h
    split at h
    · cases h
    · cases h
    · rename_i failure hfound hdirectory htext
      cases h
      exact .unreadable htext hfound hdirectory
    · rename_i text htext
      cases hread : readJson text with
      | ok package =>
          simp only [hread] at h
          cases h
      | error fault =>
          simp only [hread] at h
          cases h
          exact .malformed htext hread

-- A result that is no failure is a success.
theorem exists_ok_of_not_error {ε α : Type} {result : Except ε α}
    (h : ∀ error, result ≠ .error error) : ∃ a, result = .ok a := by
  cases result with
  | ok a => exact ⟨a, rfl⟩
  | error error => exact absurd rfl (h error)

/-- The first failure in a list wins, whatever comes behind it. -/
theorem mapM_eq_error {ε α β : Type} {f : α → Except ε β} {lower higher : List α} {a : α} {e : ε}
    (hlower : ∀ b ∈ lower, ∃ c, f b = .ok c) (h : f a = .error e) :
    (lower ++ a :: higher).mapM f = .error e := by
  induction lower with
  | nil =>
      rw [List.nil_append, List.mapM_cons, h]
      rfl
  | cons b lower ih =>
      rw [List.forall_mem_cons] at hlower
      rcases hlower.1 with ⟨c, hc⟩
      rw [List.cons_append, List.mapM_cons, hc, ih hlower.2]
      rfl

/-- Behind the package file the files of settings are read one after the other. -/
theorem exists_settingsFields_eq (files : FileReader) (user : Option SettingsFile) :
    ∃ merged : Fields → List Fields → Fields, settingsFields files user
      = packageFields files >>= fun package =>
          (tomlFiles user).mapM (SettingsFile.fields files) >>= fun held =>
            .ok (merged package held) := by
  cases user with
  | none =>
      refine ⟨fun package held => ([] :: package :: held).foldl mergeFields [], ?_⟩
      simp only [settingsFields, tomlFiles, userFields, Option.toList_none, List.nil_append,
        List.mapM_cons, List.mapM_nil]
      cases packageFields files with
      | error error => rfl
      | ok package =>
          cases hiddenSettingsFile.fields files with
          | error error => rfl
          | ok hidden =>
              cases mainSettingsFile.fields files with
              | error error => rfl
              | ok main => rfl
  | some file =>
      refine ⟨fun package held => (held.take 1 ++ package :: held.drop 1).foldl mergeFields [], ?_⟩
      simp only [settingsFields, tomlFiles, userFields, Option.toList_some, List.cons_append,
        List.nil_append, List.mapM_cons, List.mapM_nil]
      cases packageFields files with
      | error error => rfl
      | ok package =>
          cases file.fields files with
          | error error => rfl
          | ok own =>
              cases hiddenSettingsFile.fields files with
              | error error => rfl
              | ok hidden =>
                  cases mainSettingsFile.fields files with
                  | error error => rfl
                  | ok main => rfl

/-- The package file is looked at first, so that its failure is the one that counts. -/
theorem loadSettings_of_packageFails (h : PackageFails files error) :
    loadSettings files user = .error error := by
  rw [loadSettings, settingsFields, packageFails_iff.mp h]
  rfl

/-- The lowest file that is no document is the one that is blamed. -/
theorem loadSettings_of_fails {lower higher : List SettingsFile}
    (hpackage : ∀ error, ¬ PackageFails files error)
    (hfiles : tomlFiles user = lower ++ file :: higher)
    (hlower : ∀ below ∈ lower, ∀ error, ¬ below.Fails files error)
    (h : file.Fails files error) : loadSettings files user = .error error := by
  rcases exists_settingsFields_eq files user with ⟨merged, hmerged⟩
  rcases exists_ok_of_not_error fun error heq => hpackage error (packageFails_iff.mpr heq) with
    ⟨package, hfields⟩
  have hheld : (tomlFiles user).mapM (SettingsFile.fields files) = .error error := by
    rw [hfiles]
    refine mapM_eq_error (fun below hbelow => ?_) (fails_iff.mp h)
    exact exists_ok_of_not_error fun error heq => hlower below hbelow error (fails_iff.mpr heq)
  rw [loadSettings, hmerged, hfields, hheld]
  rfl

/-- Where no source fails on its own, all of them can be read. -/
theorem exists_sourcesHold (hpackage : ∀ error, ¬ PackageFails files error)
    (hfiles : ∀ file ∈ tomlFiles user, ∀ error, ¬ file.Fails files error) :
    ∃ sources, SourcesHold files user sources := by
  have hread : ∀ file ∈ tomlFiles user, ∃ fields, file.fields files = .ok fields := by
    intro file hfile
    exact exists_ok_of_not_error fun error heq => hfiles file hfile error (fails_iff.mpr heq)
  rcases exists_ok_of_not_error fun error heq => hpackage error (packageFails_iff.mpr heq) with
    ⟨package, hpackage⟩
  rcases hread hiddenSettingsFile (List.mem_append_right _ List.mem_cons_self) with
    ⟨hidden, hhidden⟩
  rcases hread mainSettingsFile
    (List.mem_append_right _ (List.mem_cons_of_mem _ List.mem_cons_self)) with ⟨main, hmain⟩
  cases user with
  | none => exact ⟨_, .intro hpackage rfl hhidden hmain⟩
  | some file =>
      rcases hread file List.mem_cons_self with ⟨own, hown⟩
      exact ⟨_, .intro hpackage hown hhidden hmain⟩

/-- Once all sources have been read only a bad setting can make loading fail. -/
theorem SourcesHold.loadSettings_eq {sources : List Fields} (h : SourcesHold files user sources) :
    loadSettings files user = (settingsOf sources).mapError .badSetting := by
  rcases h with ⟨hpackage, hown, hhidden, hmain⟩
  exact loadSettings_of_sources hpackage hown hhidden hmain

end Reading

/-! ## Data that cannot be taken -/

section Merged

variable {fields fields' source source' upper : Fields} {lower higher : List Fields}
  {name : List Char} {datum : Datum}

/-- A table makes no settings if and only if what it has for one of the four cannot be taken. -/
theorem ofFields_eq_error_iff :
    (∃ fault, Settings.ofFields fields = .error fault)
      ↔ ∃ name ∈ settingNames, RefusesAt fields name := by
  rw [Settings.ofFields]
  cases hlimit : readSetting fields "report_limit" 20 readLimit with
  | error fault => exact iff_of_true ⟨fault, rfl⟩ ⟨_, by decide, .limit hlimit⟩
  | ok limit =>
      cases hfail : readSetting fields "fail_on_error" false readFlag with
      | error fault => exact iff_of_true ⟨fault, rfl⟩ ⟨_, by decide, .fail hfail⟩
      | ok fail =>
          cases hnames : readSetting fields "void_elements" none readNames with
          | error fault => exact iff_of_true ⟨fault, rfl⟩ ⟨_, by decide, .names hnames⟩
          | ok names =>
              cases hformat : readSetting fields "format" .text readFormat with
              | error fault => exact iff_of_true ⟨fault, rfl⟩ ⟨_, by decide, .format hformat⟩
              | ok format =>
                  constructor
                  · rintro ⟨fault, h⟩
                    cases h
                  · rintro ⟨_, _, h | h | h | h⟩
                    · cases hlimit.symm.trans h
                    · cases hfail.symm.trans h
                    · cases hnames.symm.trans h
                    · cases hformat.symm.trans h

/-- Whether a setting is refused depends on what the table has under its name. -/
theorem RefusesAt.congr (h : RefusesAt fields name)
    (hget : fields'.get? name = fields.get? name) : RefusesAt fields' name := by
  cases h with
  | limit h => exact .limit ((readSetting_congr hget _ _).trans h)
  | fail h => exact .fail ((readSetting_congr hget _ _).trans h)
  | names h => exact .names ((readSetting_congr hget _ _).trans h)
  | format h => exact .format ((readSetting_congr hget _ _).trans h)

/-- What is not there is not refused. -/
theorem RefusesAt.get?_ne_none (h : RefusesAt fields name) : fields.get? name ≠ none := by
  intro hnone
  cases h with
  | limit h =>
      rw [readSetting, hnone] at h
      cases h
  | fail h =>
      rw [readSetting, hnone] at h
      cases h
  | names h =>
      rw [readSetting, hnone] at h
      cases h
  | format h =>
      rw [readSetting, hnone] at h
      cases h

-- A source with one field says something of that name, and of no other.
theorem fieldsAt_singleton (hname : IsPlainName name) (other : List Char) :
    fieldsAt other [(name, datum)] = if name = other then [(name, datum)] else [] := by
  have hroot : rootName name = name := by rw [rootName, readPath?_of_isPlainName hname]
  rw [fieldsAt, List.filter_cons, hroot, List.filter_nil]
  by_cases hother : name = other
  · rw [if_pos hother, if_pos (decide_eq_true hother)]
  · rw [if_neg hother, if_neg (decide_eq_false hother ▸ Bool.false_ne_true)]

/-- A datum that fails alone is refused where it is what a table has for the setting. -/
theorem refusesAt_of_failsAlone (hname : name ∈ settingNames) (hwhole : datum.IsWhole)
    (h : FailsAlone name datum) (hget : fields.get? name = some datum) : RefusesAt fields name := by
  have hplain : IsPlainName name := isPlainName_of_mem_settingNames name hname
  rcases ofFields_eq_error_iff.mp h with ⟨other, hother, hrefuses⟩
  rw [List.foldl_cons, List.foldl_nil] at hrefuses
  -- Alone the datum is all that the table has, so that it is the setting that is refused.
  by_cases heq : name = other
  · subst heq
    refine hrefuses.congr ?_
    rw [hget, get?_mergeFields_of_isWhole hplain _ hwhole]
    rw [fieldsAt_singleton hplain, if_pos rfl]
  · refine absurd ?_ hrefuses.get?_ne_none
    rw [get?_mergeFields_of_silent]
    · rfl
    · rw [fieldsAt_singleton hplain, if_neg heq]

/-- What lies above two tables cannot tell them apart at a name where they agree. -/
theorem get?_foldl_congr (h : fields'.get? name = fields.get? name) (sources : List Fields) :
    (sources.foldl mergeFields fields').get? name = (sources.foldl mergeFields fields).get? name := by
  induction sources generalizing fields fields' with
  | nil => exact h
  | cons source sources ih =>
      refine ih ?_
      rw [get?_mergeFields, get?_mergeFields, h]

/-- What a source says of a setting makes no difference under one that sets it. -/
theorem settingsOf_overruled (hname : name ∈ settingNames)
    (hsame : ∀ other, other ≠ name → fieldsAt other source' = fieldsAt other source)
    (hupper : upper ∈ higher) (h : fieldsAt name upper = [(name, datum)]) (hwhole : datum.IsWhole) :
    settingsOf (lower ++ source' :: higher) = settingsOf (lower ++ source :: higher) := by
  refine ofFields_congr fun other _ => ?_
  rw [List.foldl_append, List.foldl_append, List.foldl_cons, List.foldl_cons]
  -- At other names the sources agree, so what lies above them cannot tell them apart.
  by_cases hother : other = name
  · -- From the source that sets it on, both have what that one says.
    subst hother
    have hplain : IsPlainName other := isPlainName_of_mem_settingNames other hname
    rcases List.append_of_mem hupper with ⟨front, back, rfl⟩
    rw [List.foldl_append, List.foldl_append, List.foldl_cons, List.foldl_cons]
    refine get?_foldl_congr ?_ back
    rw [get?_mergeFields_of_isWhole hplain h hwhole, get?_mergeFields_of_isWhole hplain h hwhole]
  · refine get?_foldl_congr ?_ higher
    rw [get?_mergeFields, get?_mergeFields, hsame other hother]

/-- A bad datum that no source above says anything against makes loading fail. -/
theorem settingsOf_of_failsAlone (hname : name ∈ settingNames)
    (hsource : fieldsAt name source = [(name, datum)]) (hwhole : datum.IsWhole)
    (h : FailsAlone name datum) (hhigher : ∀ upper ∈ higher, fieldsAt name upper = []) :
    ∃ fault, settingsOf (lower ++ source :: higher) = .error fault := by
  refine ofFields_eq_error_iff.mpr ⟨name, hname, refusesAt_of_failsAlone hname hwhole h ?_⟩
  rw [List.foldl_append, List.foldl_cons, get?_foldl_of_silent hhigher,
    get?_mergeFields_of_isWhole (isPlainName_of_mem_settingNames name hname) hsource hwhole]

end Merged

/-- How loading settings fails. With a package file that is there and cannot be read, or is no
    document, it fails for that, whatever the files of settings hold. Else it fails for the
    lowest file of settings that is no document. Else each source holds something, and a bad
    datum for a setting makes no difference under a source that sets the same setting, but
    makes loading fail where no source above it says anything of that setting. -/
theorem loadSettings_failures (files : FileReader) (user : Option SettingsFile) :
    (∀ {error : SettingsError}, PackageFails files error →
      loadSettings files user = .error error) ∧
    (∀ {lower higher : List SettingsFile} {file : SettingsFile} {error : SettingsError},
      (∀ error, ¬ PackageFails files error) → tomlFiles user = lower ++ file :: higher →
        (∀ below ∈ lower, ∀ error, ¬ below.Fails files error) → file.Fails files error →
          loadSettings files user = .error error) ∧
    ((∀ error, ¬ PackageFails files error) →
      (∀ file ∈ tomlFiles user, ∀ error, ¬ file.Fails files error) →
        ∃ sources, SourcesHold files user sources) ∧
    ∀ {lower higher : List Fields} {source : Fields} {name : List Char} {datum : Datum},
      SourcesHold files user (lower ++ source :: higher) → name ∈ settingNames →
        fieldsAt name source = [(name, datum)] → datum.IsWhole → FailsAlone name datum →
          (∀ {upper source' : Fields} {good : Datum} {files' : FileReader}
              {user' : Option SettingsFile},
            upper ∈ higher → fieldsAt name upper = [(name, good)] → good.IsWhole →
              (∀ other, other ≠ name → fieldsAt other source' = fieldsAt other source) →
                SourcesHold files' user' (lower ++ source' :: higher) →
                  loadSettings files' user' = loadSettings files user) ∧
          ((∀ upper ∈ higher, fieldsAt name upper = []) →
            ∃ fault, loadSettings files user = .error (.badSetting fault)) := by
  refine ⟨loadSettings_of_packageFails, loadSettings_of_fails, exists_sourcesHold, ?_⟩
  intro lower higher source name datum hsources hname hsource hwhole hbad
  refine ⟨?_, ?_⟩
  · intro upper source' good files' user' hupper hgood hgoodWhole hsame hsources'
    rw [hsources'.loadSettings_eq, hsources.loadSettings_eq,
      settingsOf_overruled hname hsame hupper hgood hgoodWhole]
  · intro hhigher
    rcases settingsOf_of_failsAlone hname hsource hwhole hbad hhigher with ⟨fault, hfault⟩
    rw [hsources.loadSettings_eq, hfault]
    exact ⟨fault, rfl⟩

/-- A package file and a file of settings that are both no documents. -/
def brokenDirectory : FileReader :=
  directoryOf [(packagePath, ['x']), (mainSettingsFile.path, ['x'])]

/-- Two files of settings that are both no documents. -/
def brokenFilesDirectory : FileReader :=
  directoryOf [(hiddenSettingsFile.path, ['x']), (mainSettingsFile.path, ['='])]

/-- A number that is no format. -/
def numberFormat : Datum := .scalar (.integer 0) (some ".tagcheck.toml".toList)

/-- A text that is one. -/
def textFormat : Datum := .scalar (.text "json".toList) (some "tagcheck.toml".toList)

/-- The number as a format in a file, and what there is besides. -/
def numberFormatDirectory (texts : List (List Char × List Char)) : FileReader :=
  directoryOf ((hiddenSettingsFile.path, "format=0".toList) :: texts)

/-- The four sorts of outcomes: the package file is blamed, the lower of two files is, all sources
    can be read, and a bad format makes a difference only if it is not overruled. -/
theorem loadSettings_failures_format :
    (loadSettings brokenDirectory none = .error (.packageMalformed ⟨.missingValue, 1, 1⟩) ∧
      ∃ text, loadSettings brokenFilesDirectory none
        = .error (.fileMalformed ".tagcheck.toml".toList text)) ∧
    (∃ sources, SourcesHold (directoryOf []) none sources) ∧
    loadSettings (directoryOf [(mainSettingsFile.path, "format='json'".toList)]) none
      = loadSettings (numberFormatDirectory
        [(mainSettingsFile.path, "format='json'".toList)]) none ∧
    ∃ fault, loadSettings (numberFormatDirectory []) none = .error (.badSetting fault) := by
  have hsound : ∀ {files : FileReader}, packageFields files = .ok [] →
      ∀ error, ¬ PackageFails files error := by
    intro files hpackage error hfails
    rw [packageFails_iff, hpackage] at hfails
    cases hfails
  have hbad : FailsAlone "format".toList numberFormat := ⟨.formatShape, rfl⟩
  have hset : fieldsAt "format".toList [("format".toList, numberFormat)]
      = [("format".toList, numberFormat)] := rfl
  have hwhole : numberFormat.IsWhole := trivial
  have hnumber : Toml.readToml "format=0".toList = .ok [("format".toList, .integer 0)] := by
    simp only [String.reduceToList]
    rfl
  have htextual : Toml.readToml "format='json'".toList
      = .ok [("format".toList, .text "json".toList)] := by
    simp only [String.reduceToList]
    rfl
  refine ⟨⟨?_, ?_⟩, ?_, ?_, ?_⟩
  · have htext : brokenDirectory.text packagePath = .ok ['x'] := text_directoryOf rfl (by decide)
    have hmalformed : readJson ['x'] = .error ⟨.missingValue, 1, 1⟩ := rfl
    exact (loadSettings_failures brokenDirectory none).1 (.malformed htext hmalformed)
  · have hmalformed : Toml.readToml ['x'] = .error ⟨.missingEquals, 1, 1⟩ := rfl
    have htext : ['x'] = decodeUtf8Lossy (dropByteOrderMark (asciiBytes ['x'])) :=
      (decodeUtf8Lossy_dropByteOrderMark (by decide)).symm
    have hfiles : tomlFiles none = [] ++ hiddenSettingsFile :: [mainSettingsFile] := rfl
    have hlower : ∀ below ∈ ([] : List SettingsFile), ∀ error,
        ¬ below.Fails brokenFilesDirectory error :=
      fun below hmem => absurd hmem List.not_mem_nil
    exact ⟨_, (loadSettings_failures brokenFilesDirectory none).2.1 (hsound rfl) hfiles hlower
      (.malformed (.named rfl) htext hmalformed)⟩
  · refine (loadSettings_failures (directoryOf []) none).2.2.1 (hsound rfl) ?_
    intro file hfile error hfails
    have hfields : file.fields (directoryOf []) = .ok [] := rfl
    rw [fails_iff, hfields] at hfails
    cases hfails
  · have hsources : SourcesHold (numberFormatDirectory
        [(mainSettingsFile.path, "format='json'".toList)]) none
        ([[], []] ++ [("format".toList, numberFormat)]
          :: [[("format".toList, textFormat)]]) :=
      .intro rfl rfl (fields_directoryOf rfl (by decide) hnumber)
        (fields_directoryOf rfl (by decide) htextual)
    have hsources' : SourcesHold (directoryOf [(mainSettingsFile.path, "format='json'".toList)])
        none ([[], []] ++ []
          :: [[("format".toList, textFormat)]]) :=
      .intro rfl rfl rfl (fields_directoryOf rfl (by decide) htextual)
    have hsame : ∀ other, other ≠ "format".toList → fieldsAt other ([] : Fields)
        = fieldsAt other [("format".toList, numberFormat)] := by
      intro other hother
      rw [fieldsAt_singleton (by decide), if_neg (Ne.symm hother)]
      rfl
    have hupper : fieldsAt "format".toList [("format".toList, textFormat)]
        = [("format".toList, textFormat)] := rfl
    have hupperWhole : textFormat.IsWhole := trivial
    exact ((loadSettings_failures _ none).2.2.2 hsources (by decide) hset hwhole hbad).1
      List.mem_cons_self hupper hupperWhole hsame hsources'
  · have hsources : SourcesHold (numberFormatDirectory []) none
        ([[], []] ++ [("format".toList, numberFormat)] :: [[]]) :=
      .intro rfl rfl (fields_directoryOf rfl (by decide) hnumber) rfl
    exact ((loadSettings_failures _ none).2.2.2 hsources (by decide) hset hwhole hbad).2 (by decide)

end TagNesting
