import TagNesting.Proofs.ExitStatus
import TagNesting.Proofs.LoadedSettings
import TagNesting.Proofs.ValueFlag

/-!
# Settings and Flags Say the Same

A setting can be made in a file or by a flag, and it makes no difference which: not for the
report, nor for the log, nor for how the program ends. The two ways are not the same list of
names where there are no names, for a flag cannot be given without a value. They come to the
same void elements all the same, as a blank name does not count.

What is given by flags is not looked for in the settings any more. Of the settings only the
one that makes findings matter is left then, for a flag can say that they do but not that
they do not.

## Main definitions

* `AgreeOn`: Two surroundings in which a check reads the same besides its settings.
* `AgreeBelow`: Two surroundings whose settings differ in one file.

## Theorems

* `run_congr`: Checks that come to the same settings print the same and end alike.
* `voidNames_intercalate`: Names from a flag are those from a file.
* `failOnError_congr`: Files that agree on what makes findings matter.
* `runProgram_congr_of_gives`: Flags leave one setting that counts.
* `runProgram_interchange`: Settings and flags say the same.
-/

namespace TagNesting

/-- Two surroundings in which a check of a path reads the same besides its settings. -/
structure AgreeOn (surroundings other : Surroundings) (path : List Char) : Prop where
  /-- The same comes in on standard input. -/
  stdin : other.stdin = surroundings.stdin
  /-- The user's file of settings has the same place. -/
  user : other.user = surroundings.user
  /-- The same is under the path. -/
  file : other.files path = surroundings.files path

/-- The sources below the file that counts most hold the same. -/
structure AgreeBelow (surroundings other : Surroundings) : Prop where
  /-- The package file. -/
  package : packageFields other.files = packageFields surroundings.files
  /-- The file of the user. -/
  user : userFields other.files (other.user.map UserSettings.file)
    = userFields surroundings.files (surroundings.user.map UserSettings.file)
  /-- The hidden file. -/
  hidden : hiddenSettingsFile.fields other.files = hiddenSettingsFile.fields surroundings.files

section Run

variable {surroundings other : Surroundings} {settings settings' : Settings}

/-- A check gets the same source where files and standard input agree on its path. -/
theorem source_congr {check check' : CheckRequest} (hpath : check'.path = check.path)
    (h : AgreeOn surroundings other check.path) :
    check'.source other = check.source surroundings := by
  rw [CheckRequest.source, CheckRequest.source, hpath, h.stdin, readSource, readSource,
    FileReader.text, FileReader.text, h.file]

/-- Checks that come to the same settings in the end print the same and end alike. -/
theorem run_congr {request request' : Request}
    (hload : surroundings.load = .ok settings) (hload' : other.load = .ok settings')
    (hpath : request'.check.path = request.check.path)
    (hagree : AgreeOn surroundings other request.check.path)
    (hquiet : request'.quiet = request.quiet)
    (hvoid : request'.check.voidNames settings' = request.check.voidNames settings)
    (hlimit : request'.check.shownLimit settings' = request.check.shownLimit settings)
    (hformat : request'.check.format.getD settings'.format
      = request.check.format.getD settings.format)
    (hfail : (request'.check.failOnError || settings'.failOnError)
      = (request.check.failOnError || settings.failOnError)) (filter : LogFilter) :
    request'.run other filter = request.run surroundings filter := by
  -- The settings come in only where the request asks them for one of the four.
  have hevents : other.settingsEvents = surroundings.settingsEvents := by
    rw [Surroundings.settingsEvents, Surroundings.settingsEvents, hagree.user]
  have houtcome : ∀ text, request'.check.outcome settings' request'.quiet text
      = request.check.outcome settings request.quiet text := by
    intro text
    rw [CheckRequest.outcome, CheckRequest.outcome, hpath, hquiet, hvoid, hlimit, hformat, hfail]
  have hchecked : ∀ text,
      request'.check.readEvents text ++ request'.check.checkEvents settings' text
        = request.check.readEvents text ++ request.check.checkEvents settings text := by
    intro text
    rw [CheckRequest.readEvents, CheckRequest.checkEvents, CheckRequest.readEvents,
      CheckRequest.checkEvents, hpath, hvoid]
  have hperform : performCheck other request'.quiet request'.check
      = performCheck surroundings request.quiet request.check := by
    rw [performCheck, performCheck, settings_eq_ok hload, settings_eq_ok hload',
      source_congr hpath hagree, hevents]
    cases request.check.source surroundings with
    | error failure => rfl
    | ok text => simp only [List.append_assoc, hchecked, houtcome]
  rw [Request.run, Request.run, hperform]

end Run

/-- Names from a flag are those from a file, also where there are none or they are blank. -/
theorem voidNames_intercalate {names : List (List Char)} (h : ∀ name ∈ names, ',' ∉ name) :
    trimmedNames (namesBetweenCommas ([','].intercalate names)) = trimmedNames names := by
  cases names with
  | nil => rfl
  | cons name names => rw [namesBetweenCommas_intercalate h (List.cons_ne_nil _ _)]

-- Names that are given as flags count, and those of the settings do not.
theorem voidNames_of_ne_nil {check : CheckRequest} (h : check.voidElements ≠ [])
    (settings : Settings) : check.voidNames settings = trimmedNames check.voidElements := by
  rw [CheckRequest.voidNames, List.isEmpty_eq_false_iff.mpr h]
  rfl

/-! ## What the settings are left with -/

section FailOnError

variable {surroundings other : Surroundings} {settings settings' : Settings}

/-- What makes findings matter is read of what the sources come to. -/
theorem readFlag_of_load (h : surroundings.load = .ok settings) {main : Fields}
    (hmain : mainSettingsFile.fields surroundings.files = .ok main) :
    ∃ package own hidden, packageFields surroundings.files = .ok package ∧
      userFields surroundings.files (surroundings.user.map UserSettings.file) = .ok own ∧
      hiddenSettingsFile.fields surroundings.files = .ok hidden ∧
      readSetting ([own, package, hidden, main].foldl mergeFields []) "fail_on_error" false readFlag
        = .ok settings.failOnError := by
  rcases exists_of_bind_eq_ok h with ⟨fields, hfields, h⟩
  rcases exists_of_bind_eq_ok hfields with ⟨package, hpackage, hfields⟩
  rcases exists_of_bind_eq_ok hfields with ⟨own, hown, hfields⟩
  rcases exists_of_bind_eq_ok hfields with ⟨hidden, hhidden, hfields⟩
  rcases exists_of_bind_eq_ok hfields with ⟨main', hmain', hfields⟩
  rw [hmain, Except.ok.injEq] at hmain'
  subst hmain'
  rcases Except.ok.inj hfields
  refine ⟨package, own, hidden, hpackage, hown, hhidden, ?_⟩
  rcases exists_of_bind_eq_ok (mapError_eq_ok_iff.mp h) with ⟨limit, _, h⟩
  rcases exists_of_bind_eq_ok h with ⟨fail, hfail, h⟩
  rcases exists_of_bind_eq_ok h with ⟨names, _, h⟩
  rcases exists_of_bind_eq_ok h with ⟨format, _, h⟩
  rcases Except.ok.inj h
  exact hfail

/-- Files that agree on what makes findings matter come to the same about it. -/
theorem failOnError_congr (hbelow : AgreeBelow surroundings other)
    {main main' : Fields} (hmain : mainSettingsFile.fields surroundings.files = .ok main)
    (hmain' : mainSettingsFile.fields other.files = .ok main')
    (hfields : fieldsAt "fail_on_error".toList main' = fieldsAt "fail_on_error".toList main)
    (hload : surroundings.load = .ok settings) (hload' : other.load = .ok settings') :
    settings'.failOnError = settings.failOnError := by
  rcases readFlag_of_load hload hmain with ⟨package, own, hidden, hpackage, hown, hhidden, hread⟩
  rcases readFlag_of_load hload' hmain' with
    ⟨package', own', hidden', hpackage', hown', hhidden', hread'⟩
  rw [hbelow.package, hpackage, Except.ok.injEq] at hpackage'
  rw [hbelow.user, hown, Except.ok.injEq] at hown'
  rw [hbelow.hidden, hhidden, Except.ok.injEq] at hhidden'
  subst hpackage' hown' hhidden'
  -- Both files are laid over the same, and what they have at that name is all that counts there.
  simp only [readSetting, List.foldl_cons, List.foldl_nil, get?_mergeFields _ main,
    get?_mergeFields _ main', hfields] at hread hread'
  rw [hread, Except.ok.injEq] at hread'
  exact hread'.symm

end FailOnError

/-- Of the settings only the one that makes findings matter counts where the others are given. -/
theorem runProgram_congr_of_gives {surroundings other : Surroundings}
    {settings settings' : Settings} {arguments : List (List Char)} {request : Request}
    (h : readArguments arguments = .ok request) (hformat : Gives .format arguments)
    (hlimit : Gives .limit arguments) (hvoid : Gives .void arguments)
    (hagree : AgreeOn surroundings other request.check.path)
    (hload : surroundings.load = .ok settings) (hload' : other.load = .ok settings')
    (hfail : settings'.failOnError = settings.failOnError) (filter : Option (List Char)) :
    runProgram other filter arguments = runProgram surroundings filter arguments := by
  have hformat' : request.check.format ≠ none := readArguments_records (by decide) h hformat
  have hlimit' : request.check.limit ≠ none := readArguments_records (by decide) h hlimit
  have hvoid' : request.check.voidElements ≠ [] := readArguments_records (by decide) h hvoid
  rcases Option.ne_none_iff_exists'.mp hformat' with ⟨format, hformat⟩
  rcases Option.ne_none_iff_exists'.mp hlimit' with ⟨limit, hlimit⟩
  simp only [runProgram, h]
  refine run_congr hload hload' rfl hagree rfl ?_ ?_ ?_ ?_ _
  · rw [voidNames_of_ne_nil hvoid', voidNames_of_ne_nil hvoid']
  · rw [CheckRequest.shownLimit, CheckRequest.shownLimit, hlimit]
    rfl
  · rw [hformat]
    rfl
  · rw [hfail]

/-- Settings and flags say the same. A check of a path in surroundings where a file sets the
    four settings prints the same, and ends alike, as one where there are no settings and the
    flags say what the file said. Where the format, the limit and the void elements are given
    by flags, in whatever way, two files that come to settings and that agree on what makes
    findings matter make no difference. -/
theorem runProgram_interchange {surroundings other : Surroundings} {path : List Char}
    (hagree : AgreeOn surroundings other path) (filter : Option (List Char)) :
    (∀ {bytes : List UInt8} {format : OutputFormat} {limit : Nat} {fail : Bool}
        {names tail : List (List Char)},
      limit ≤ Toml.integerBound → (∀ name ∈ names, ',' ∉ name) → NamesPath tail path →
        OthersLoad surroundings.files (surroundings.user.map UserSettings.file) →
          surroundings.files mainSettingsFile.path = .ok bytes →
            SaysSettings bytes format limit fail names →
              Unconfigured other.files (other.user.map UserSettings.file) →
                runProgram other filter
                    ("check".toList :: (settingArguments format limit fail names ++ tail))
                  = runProgram surroundings filter ("check".toList :: tail)) ∧
      ∀ {arguments : List (List Char)} {request : Request} {main main' : Fields}
          {settings settings' : Settings},
        readArguments arguments = .ok request → request.check.path = path →
          Gives .format arguments → Gives .limit arguments → Gives .void arguments →
            AgreeBelow surroundings other →
              mainSettingsFile.fields surroundings.files = .ok main →
                mainSettingsFile.fields other.files = .ok main' →
                  fieldsAt "fail_on_error".toList main' = fieldsAt "fail_on_error".toList main →
                    surroundings.load = .ok settings → other.load = .ok settings' →
                      runProgram other filter arguments
                        = runProgram surroundings filter arguments := by
  refine ⟨?_, ?_⟩
  · intro bytes format limit fail names tail hlimit hnames hpath hothers hbytes hsays hbare
    have hload : surroundings.load = .ok ⟨limit, fail, some names, format⟩ :=
      loadSettings_of_saysSettings hothers hbytes hsays
    have hload' : other.load = .ok {} := loadSettings_of_unconfigured hbare
    have hbound : limit ≤ wholeBound := hlimit.trans (by decide)
    simp only [runProgram, readArguments_path hpath,
      readArguments_settingArguments hpath format hbound fail names]
    refine run_congr hload hload' ?_ hagree ?_ ?_ ?_ ?_ ?_ _
    · rfl
    · rfl
    · -- Also no names at all are a list that is given, the one with an empty name.
      rw [voidNames_of_ne_nil (namesBetweenCommas_ne_nil _)]
      exact voidNames_intercalate hnames
    · rfl
    · rfl
    · rw [Bool.or_false, Bool.false_or]
  · intro arguments request main main' settings settings' hread hpath hformat hlimit hvoid hbelow
      hmain hmain' hfields hload hload'
    subst hpath
    exact runProgram_congr_of_gives hread hformat hlimit hvoid hagree hload hload'
      (failOnError_congr hbelow hmain hmain' hfields hload hload') filter

/-- A directory with a stray closing tag behind an opening one. The text is its file of
    settings, if there is one. -/
def imageDirectory (text? : Option (List Char)) : Surroundings where
  files := fun path =>
    if path = "a.xml".toList then .ok ("<img></b>".toList.map fun c => UInt8.ofNat c.toNat)
    else if path = "tagcheck.toml".toList then
      match text? with
      | some text => .ok (text.map fun c => UInt8.ofNat c.toNat)
      | none => .error .notFound
    else .error .notFound
  stdin := []
  user := none

/-- All settings, with a blank name and one that has white space around it. -/
def imageSettings : List Char :=
  "format='json'\nreport_limit=0\nfail_on_error=true\nvoid_elements=[' img ','']".toList

theorem saysSettings_imageSettings :
    SaysSettings (imageSettings.map fun c => UInt8.ofNat c.toNat) .json 0 true
      [" img ".toList, []] :=
  saysSettings_of_tableSettings? (by decide +kernel)

theorem agreeOn_imageDirectory (text? text?' : Option (List Char)) :
    AgreeOn (imageDirectory text?) (imageDirectory text?') "a.xml".toList := ⟨rfl, rfl, rfl⟩

-- There is no other source in such a directory.
theorem fields_below_imageDirectory (text? : Option (List Char)) :
    packageFields (imageDirectory text?).files = .ok [] ∧
      userFields (imageDirectory text?).files none = .ok [] ∧
      hiddenSettingsFile.fields (imageDirectory text?).files = .ok [] := ⟨rfl, rfl, rfl⟩

theorem agreeBelow_imageDirectory (text? text?' : Option (List Char)) :
    AgreeBelow (imageDirectory text?) (imageDirectory text?') := by
  rcases fields_below_imageDirectory text? with ⟨hpackage, huser, hhidden⟩
  rcases fields_below_imageDirectory text?' with ⟨hpackage', huser', hhidden'⟩
  exact ⟨hpackage'.trans hpackage.symm, huser'.trans huser.symm, hhidden'.trans hhidden.symm⟩

theorem exists_main_and_settings (text? : Option (List Char))
    (hmain : (mainSettingsFile.fields (imageDirectory text?).files).toOption.any
      fun main => (fieldsAt "fail_on_error".toList main).isEmpty)
    (hload : (imageDirectory text?).load.toOption.isSome) :
    ∃ main settings, mainSettingsFile.fields (imageDirectory text?).files = .ok main ∧
      fieldsAt "fail_on_error".toList main = [] ∧ (imageDirectory text?).load = .ok settings := by
  cases hfields : mainSettingsFile.fields (imageDirectory text?).files with
  | error error =>
      rw [hfields] at hmain
      cases hmain
  | ok main =>
      cases hresult : (imageDirectory text?).load with
      | error error =>
          rw [hresult] at hload
          cases hload
      | ok settings =>
          rw [hfields] at hmain
          exact ⟨main, settings, rfl, List.isEmpty_iff.mp hmain, rfl⟩

/-- A check of the file ends the same with all the settings in a file or by flags, and with all
    but one by flags it ends the same with two files. -/
theorem runProgram_interchange_image :
    runProgram (imageDirectory none) none ["check".toList, "--format=json".toList,
        "--limit=0".toList, "--fail-on-error".toList, "--void= img ,".toList, "a.xml".toList]
      = runProgram (imageDirectory (some imageSettings)) none
        ["check".toList, "a.xml".toList] ∧
    runProgram (imageDirectory (some "report_limit=1".toList)) none ["check".toList,
        "--void=br".toList, "a.xml".toList, "--limit".toList, "2".toList, "--void".toList,
        "img".toList, "--format=text".toList]
      = runProgram (imageDirectory (some "format='pretty'".toList)) none ["check".toList,
        "--void=br".toList, "a.xml".toList, "--limit".toList, "2".toList, "--void".toList,
        "img".toList, "--format=text".toList] := by
  refine ⟨?_, ?_⟩
  · rcases fields_below_imageDirectory (some imageSettings) with ⟨hpackage, huser, hhidden⟩
    have hothers : OthersLoad (imageDirectory (some imageSettings)).files none :=
      ⟨⟨[], hpackage⟩, ⟨[], huser⟩, ⟨[], hhidden⟩⟩
    have hbare : Unconfigured (imageDirectory none).files none :=
      ⟨rfl, fun _ hfile => (nomatch hfile), SettingsFile.absent_of_notFound rfl rfl,
        SettingsFile.absent_of_notFound rfl rfl⟩
    exact (runProgram_interchange (agreeOn_imageDirectory _ _) none).1 (by decide) (by decide)
      (Or.inr ⟨rfl, rfl⟩) hothers rfl saysSettings_imageSettings hbare
  · have hread : readArguments ["check".toList, "--void=br".toList, "a.xml".toList,
        "--limit".toList, "2".toList, "--void".toList, "img".toList, "--format=text".toList]
        = .ok ⟨false, 0, ⟨"a.xml".toList, some .text, some 2, false,
          ["br".toList, "img".toList]⟩⟩ := rfl
    have hfirst := exists_main_and_settings (some "format='pretty'".toList)
      (by decide +kernel) (by decide +kernel)
    have hsecond := exists_main_and_settings (some "report_limit=1".toList)
      (by decide +kernel) (by decide +kernel)
    rcases hfirst with ⟨main, settings, hmain, hnone, hload⟩
    rcases hsecond with ⟨main', settings', hmain', hnone', hload'⟩
    exact (runProgram_interchange (agreeOn_imageDirectory _ _) none).2 hread rfl
      (by decide +kernel) (by decide +kernel) (by decide +kernel)
      (agreeBelow_imageDirectory _ _) hmain hmain' (hnone'.trans hnone.symm) hload hload'

end TagNesting
