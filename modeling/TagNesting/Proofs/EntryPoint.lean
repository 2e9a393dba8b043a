import TagNesting.FileCheck
import TagNesting.Proofs.ExitStatus
import TagNesting.Proofs.GivenFlags
import TagNesting.Proofs.Message
import TagNesting.Proofs.SettingSources

/-!
# Entry Points Agree

A source can be checked in three ways: as a file, apart from all settings; as a file, by the
command; and as what comes in on standard input, by the command. The three read bytes in the
same way and find the same in them.

Where nothing is configured the command prints the messages of a file, all of them if there
is no limit and twenty if none is given, and comes to no report exactly if there are no
messages. And whatever is configured and asked for, a source that comes in on standard input
ends alike and looks alike as one in a file, but for its name, which only a JSON report has.

## Main definitions

* `reportLines`: The lines of a report with some messages.
* `SameSources`: Two surroundings with the same sources of settings.
* `Request.under`: A request for the source under another path.
* `Request.PrintsAs`: The format of a report that is asked for.
* `pathDocument`: A JSON document with a path and other members.
* `Report.members`: The other members of a JSON report.

## Theorems

* `fileMessages_eq_ok_iff`: A file has messages if it has a text.
* `Report.text_eq_reportLines`: The lines of a text report.
* `stdout_run_unconfigured`: What is printed where nothing is configured.
* `run_piped_stored`: Standard input and a file with the same bytes.
* `entryPoints_agree`: The entry points agree.
-/

namespace TagNesting

/-- The lines of a report with these messages, of which some are shown. -/
def reportLines (messages shown : List (List Char)) : List (List Char) :=
  if messages = [] then [noErrorsText] else foundErrorsText :: shown

/-- Two surroundings with the same sources of settings. -/
structure SameSources (surroundings other : Surroundings) : Prop where
  /-- The user's file of settings has the same place. -/
  user : other.user.map UserSettings.file = surroundings.user.map UserSettings.file
  /-- The package file is the same. -/
  package : other.files packagePath = surroundings.files packagePath
  /-- The files of settings are the same, also those with one more ending. -/
  files : ∀ file ∈ tomlFiles (surroundings.user.map UserSettings.file),
    other.files file.path = surroundings.files file.path ∧
      other.files file.withEnding.path = surroundings.files file.withEnding.path

/-- The same request for the source under another path. -/
def Request.under (request : Request) (path : List Char) : Request :=
  { request with check := { request.check with path := path } }

/-- The format of the report that a request comes to, if the settings can be loaded. -/
def Request.PrintsAs (request : Request) (surroundings : Surroundings) (format : OutputFormat) :
    Prop :=
  ∀ settings, surroundings.load = .ok settings →
    request.check.format.getD settings.format = format

/-- A JSON document with a path and other members, as it is printed. -/
def pathDocument (path : List Char) (members : List (List Char × Json)) : List Char :=
  (Json.object (("path".toList, .text path) :: members)).indented 0 ++ ['\n']

/-- The members of a JSON report besides its path. -/
def Report.members (report : Report) : List (List Char × Json) :=
  [("total".toList, .ofNat report.total), ("reported".toList, .ofNat report.reported.length),
    ("errors".toList, .array (report.reported.map Finding.toJson))]

section Run

variable {surroundings other : Surroundings} {settings : Settings} {path : List Char}

/-- A file has messages if it has a text, and they are those of what is found in the text. -/
theorem fileMessages_eq_ok_iff {files : FileReader} {messages : List (List Char)} :
    fileMessages files path = .ok messages ↔ ∃ text, files.text path = .ok text ∧
      messages = (findings defaultVoidElements text).map Finding.message := by
  rw [fileMessages, checkFile, readSource]
  cases files.text path with
  | error failure =>
      constructor
      · intro h
        cases h
      · rintro ⟨text, htext, -⟩
        cases htext
  | ok text =>
      constructor
      · intro h
        exact ⟨text, rfl, (Except.ok.inj h).symm⟩
      · rintro ⟨text', htext, rfl⟩
        rw [Except.ok.inj htext]
        rfl

theorem exists_fileMessages_error_iff {files : FileReader} :
    (∃ error, fileMessages files path = .error error) ↔ ∀ text, files.text path ≠ .ok text := by
  rw [fileMessages, checkFile, readSource]
  cases files.text path with
  | error failure =>
      refine iff_of_true ⟨_, rfl⟩ ?_
      intro text htext
      cases htext
  | ok text =>
      constructor
      · rintro ⟨error, herror⟩
        cases herror
      · intro hnone
        exact absurd rfl (hnone text)

theorem SameSources.load_eq (h : SameSources surroundings other) :
    other.load = surroundings.load := by
  have hpackage : packageFields other.files = packageFields surroundings.files := by
    rw [packageFields, packageFields, FileReader.text, FileReader.text, h.package]
  rw [Surroundings.load, Surroundings.load, h.user]
  exact loadSettings_congr hpackage h.files

/-! ## Where nothing is configured -/

/-- A text report has the lines of its messages. -/
theorem Report.text_eq_reportLines (report : Report) :
    report.text = (reportLines (report.findings.map Finding.message)
      (report.reported.map Finding.message)).flatMap (· ++ ['\n']) := by
  rw [reportLines]
  by_cases hnone : report.findings = []
  · rw [if_pos (by rw [hnone, List.map_nil]), Report.text, hnone]
    rfl
  · rw [Report.text_eq hnone, if_neg fun hmap => hnone (List.map_eq_nil_iff.mp hmap)]

/-- A check that leaves all but the limit to the settings, where there are none, comes to no
    report if and only if the file has no messages. -/
theorem status_run_unconfigured (hload : surroundings.load = .ok {})
    (hpath : path ≠ CheckRequest.stdinPath) (limit : Option Nat) (filter : LogFilter) :
    ((⟨false, 0, ⟨path, none, limit, false, []⟩⟩ : Request).run surroundings filter).status = 2
      ↔ ∃ error, fileMessages surroundings.files path = .error error := by
  rw [(status_run_eq_two_iff surroundings _ filter).1, exists_fileMessages_error_iff, CannotReport]
  constructor
  · rintro (⟨error, herror⟩ | hnone)
    · rw [hload] at herror
      cases herror
    · exact fun text htext => hnone text ((hasSource_iff_of_ne hpath).mpr htext)
  · intro hnone
    exact Or.inr fun text hsource => hnone text ((hasSource_iff_of_ne hpath).mp hsource)

/-- It prints the messages of the file, as many as the limit is, or all if it is zero. -/
theorem stdout_run_unconfigured (hload : surroundings.load = .ok {})
    (hpath : path ≠ CheckRequest.stdinPath) {messages : List (List Char)}
    (h : fileMessages surroundings.files path = .ok messages) (limit : Option Nat)
    (filter : LogFilter) :
    ((⟨false, 0, ⟨path, none, limit, false, []⟩⟩ : Request).run surroundings filter).stdout
      = (reportLines messages
          (if limit.getD 20 = 0 then messages else messages.take (limit.getD 20))).flatMap
            (· ++ ['\n']) := by
  rcases fileMessages_eq_ok_iff.mp h with ⟨text, htext, rfl⟩
  have hsource : surroundings.HasSource
      (⟨false, 0, ⟨path, none, limit, false, []⟩⟩ : Request).check.path text :=
    (hasSource_iff_of_ne hpath).mpr htext
  rw [(run_of_source hload hsource filter).2]
  have hreport : ((⟨path, none, limit, false, []⟩ : CheckRequest).outcome {} false text).stdout
      = (Report.mk path text (findings defaultVoidElements text)
          (CheckRequest.shownLimit ⟨path, none, limit, false, []⟩ {})).text := rfl
  refine hreport.trans ?_
  rw [Report.text_eq_reportLines, Report.reported, CheckRequest.shownLimit]
  -- A limit of zero stands for all findings.
  by_cases hzero : limit.getD 20 = 0
  · rw [if_pos hzero, if_pos hzero]
  · rw [if_neg hzero, if_neg hzero]
    simp only [List.map_take]

/-! ## Standard input and files -/

theorem stdout_outcome_of_json (check : CheckRequest)
    (hformat : check.format.getD settings.format = .json) (text : List Char) :
    (check.outcome settings false text).stdout
      = pathDocument check.path (check.outcome settings false text).report.members := by
  rw [CheckOutcome.stdout, CheckRequest.outcome, hformat]
  rfl

/-- A source that comes in on standard input ends like one in a file, and looks like it but for
    its name. -/
theorem run_piped_stored {request : Request} {bytes : List UInt8}
    (hsources : SameSources surroundings other) (hstdin : surroundings.stdin = bytes)
    (hpiped : request.check.path = CheckRequest.stdinPath)
    (hfile : other.files path = .ok bytes) (hpath : path ≠ CheckRequest.stdinPath)
    (filter filter' : LogFilter) :
    ((request.under path).run other filter').status = (request.run surroundings filter).status ∧
      (decodeUtf8? bytes = none → (request.run surroundings filter).status = 2) ∧
      (request.PrintsAs surroundings .text →
        ((request.under path).run other filter').stdout
          = (request.run surroundings filter).stdout) ∧
      (request.PrintsAs surroundings .json → request.quiet = false →
        (request.run surroundings filter).status ≠ 2 →
          ∃ members, (request.run surroundings filter).stdout
              = pathDocument CheckRequest.stdinPath members ∧
            ((request.under path).run other filter').stdout = pathDocument path members) := by
  cases hload : surroundings.load with
  | error error =>
      have hload' : other.load = .error error := hsources.load_eq.trans hload
      rw [run_of_load_error hload, run_of_load_error hload']
      exact ⟨rfl, fun _ => rfl, fun _ => rfl, fun _ _ hne => absurd rfl hne⟩
  | ok settings =>
      have hload' : other.load = .ok settings := hsources.load_eq.trans hload
      cases htext : decodeUtf8? bytes with
      | none =>
          -- Bytes that are no UTF-8 are no source, wherever they come from.
          have hnone : ∀ text, ¬ surroundings.HasSource request.check.path text := by
            rintro text (⟨_, hdecoded⟩ | ⟨hne, _, _⟩)
            · rw [hstdin, htext] at hdecoded
              cases hdecoded
            · exact hne hpiped
          have hnone' : ∀ text, ¬ other.HasSource (request.under path).check.path text := by
            rintro text (⟨heq, _⟩ | ⟨_, hbytes, hdecoded⟩)
            · exact hpath heq
            · rw [Request.under, hfile, Except.ok.injEq] at hbytes
              rw [← hbytes, htext] at hdecoded
              cases hdecoded
          rcases run_of_no_source hload hnone filter with ⟨hstatus, hstdout⟩
          rcases run_of_no_source hload' hnone' filter' with ⟨hstatus', hstdout'⟩
          rw [hstatus, hstdout, hstatus', hstdout']
          exact ⟨rfl, fun _ => rfl, fun _ => rfl, fun _ _ hne => absurd rfl hne⟩
      | some text =>
          -- Both runs check the same text under the same settings.
          have hsource : surroundings.HasSource request.check.path text :=
            .piped hpiped (hstdin ▸ htext)
          have hsource' : other.HasSource (request.under path).check.path text :=
            .stored hpath hfile htext
          rcases run_of_source hload hsource filter with ⟨hstatus, hstdout⟩
          rcases run_of_source hload' hsource' filter' with ⟨hstatus', hstdout'⟩
          rw [hstatus, hstdout, hstatus', hstdout']
          refine ⟨rfl, fun hnone => ?_, fun hformat => ?_, fun hformat hquiet _ => ?_⟩
          · cases hnone
          · -- A text report does not name its source.
            have hformat := hformat settings hload
            simp only [CheckOutcome.stdout, CheckRequest.outcome, Request.under, hformat]
            rfl
          · have hformat := hformat settings hload
            have hpipedOut := stdout_outcome_of_json request.check hformat text
            rw [hpiped, ← hquiet] at hpipedOut
            have hstoredOut := stdout_outcome_of_json (request.under path).check hformat text
            exact ⟨_, hpipedOut, hquiet ▸ hstoredOut⟩

end Run

/-- The entry points agree. Where nothing is configured, a check of a file without a limit prints
    the line for no findings or the heading and a line for each message of the file, one that
    leaves the limit out prints the first twenty of these, and either ends with two if and only
    if the file has no messages to give. Whatever is configured and asked for, bytes on standard
    input end like the same bytes in a file, with two if they are not UTF-8, print the same in
    a text report, and in a JSON report all the same members but the path. -/
theorem entryPoints_agree (surroundings : Surroundings) (filter : Option (List Char)) :
    (∀ {path : List Char} {tail : List (List Char)}, NamesPath tail path →
      path ≠ CheckRequest.stdinPath →
        Unconfigured surroundings.files (surroundings.user.map UserSettings.file) →
          ((runProgram surroundings filter
              ("check".toList :: "--limit".toList :: ['0'] :: tail)).status = 2
            ↔ ∃ error, fileMessages surroundings.files path = .error error) ∧
          ((runProgram surroundings filter ("check".toList :: tail)).status = 2
            ↔ ∃ error, fileMessages surroundings.files path = .error error) ∧
          ∀ {messages : List (List Char)}, fileMessages surroundings.files path = .ok messages →
            (∀ message ∈ messages, '\n' ∉ message) ∧
            (runProgram surroundings filter
                ("check".toList :: "--limit".toList :: ['0'] :: tail)).stdout
              = (reportLines messages messages).flatMap (· ++ ['\n']) ∧
            (runProgram surroundings filter ("check".toList :: tail)).stdout
              = (reportLines messages (messages.take 20)).flatMap (· ++ ['\n'])) ∧
    ∀ {other : Surroundings} {filter' : Option (List Char)} {arguments others : List (List Char)}
        {request : Request} {path : List Char} {bytes : List UInt8},
      SameSources surroundings other → surroundings.stdin = bytes → other.files path = .ok bytes →
        path ≠ CheckRequest.stdinPath → readArguments arguments = .ok request →
          request.check.path = CheckRequest.stdinPath →
            readArguments others = .ok (request.under path) →
              (runProgram other filter' others).status
                = (runProgram surroundings filter arguments).status ∧
              (decodeUtf8? bytes = none →
                (runProgram surroundings filter arguments).status = 2) ∧
              (request.PrintsAs surroundings .text →
                (runProgram other filter' others).stdout
                  = (runProgram surroundings filter arguments).stdout) ∧
              (request.PrintsAs surroundings .json → request.quiet = false →
                (runProgram surroundings filter arguments).status ≠ 2 →
                  ∃ members, (runProgram surroundings filter arguments).stdout
                      = pathDocument CheckRequest.stdinPath members ∧
                    (runProgram other filter' others).stdout = pathDocument path members) := by
  refine ⟨?_, ?_⟩
  · intro path tail hpath hne hbare
    have hload : surroundings.load = .ok {} := loadSettings_of_unconfigured hbare
    have hunlimited : readArguments ("check".toList :: "--limit".toList :: ['0'] :: tail)
        = .ok ⟨false, 0, ⟨path, none, some 0, false, []⟩⟩ := readArguments_limit hpath rfl rfl
    simp only [runProgram, hunlimited, readArguments_path hpath]
    refine ⟨status_run_unconfigured hload hne _ _, status_run_unconfigured hload hne _ _, ?_⟩
    intro messages hmessages
    refine ⟨?_, stdout_run_unconfigured hload hne hmessages (some 0) _,
      stdout_run_unconfigured hload hne hmessages none _⟩
    rcases fileMessages_eq_ok_iff.mp hmessages with ⟨text, -, rfl⟩
    intro message hmessage
    rcases List.mem_map.mp hmessage with ⟨finding, hfinding, rfl⟩
    exact (unbroken_iff.mp (wellNamed_of_mem_findings hfinding).unbroken_message).1
  · intro other filter' arguments others request path bytes hsources hstdin hfile hne hread hpiped
      hread'
    simp only [runProgram, hread, hread']
    exact run_piped_stored hsources hstdin hpiped hfile hne _ _

/-- A closing tag that nothing opens, in a file and on standard input. -/
def strayEverywhere : Surroundings where
  files := directoryOf [("a.xml".toList, "</b>".toList)]
  stdin := asciiBytes "</b>".toList
  user := none

/-- The stray tag is reported by each of the three. -/
theorem entryPoints_agree_stray :
    ((runProgram strayEverywhere none
        ["check".toList, "--limit".toList, ['0'], "a.xml".toList]).status ≠ 2 ∧
      (runProgram strayEverywhere none
        ["check".toList, "--limit".toList, ['0'], "a.xml".toList]).stdout
        = "Found errors:\nLine 1: Unexpected closing tag </b>\n".toList) ∧
    (runProgram strayEverywhere none ["check".toList, "a.xml".toList]).stdout
      = (runProgram strayEverywhere none ["check".toList, ['-']]).stdout ∧
    ∃ members, (runProgram strayEverywhere none
          ["check".toList, "--format=json".toList, ['-']]).stdout = pathDocument ['-'] members ∧
      (runProgram strayEverywhere none
          ["check".toList, "--format=json".toList, "a.xml".toList]).stdout
        = pathDocument "a.xml".toList members := by
  have hbare : Unconfigured strayEverywhere.files none :=
    ⟨rfl, fun file hfile => absurd hfile (Option.not_mem_none file),
      SettingsFile.absent_of_notFound rfl rfl, SettingsFile.absent_of_notFound rfl rfl⟩
  have hload : strayEverywhere.load = .ok {} := loadSettings_of_unconfigured hbare
  have htext : textOfBytes (asciiBytes "</b>".toList) = .ok "</b>".toList :=
    textOfBytes_eq_ok_iff.mpr (decode_asciiBytes (by decide)).1
  have hmessages : fileMessages strayEverywhere.files "a.xml".toList
      = .ok ["Line 1: Unexpected closing tag </b>".toList] :=
    fileMessages_eq_ok_iff.mpr ⟨"</b>".toList, htext, by decide +kernel⟩
  have hsources : SameSources strayEverywhere strayEverywhere :=
    ⟨rfl, rfl, fun _ _ => ⟨rfl, rfl⟩⟩
  have hfile : strayEverywhere.files "a.xml".toList = .ok (asciiBytes "</b>".toList) := rfl
  have htail : NamesPath ["a.xml".toList] "a.xml".toList := Or.inr ⟨rfl, rfl⟩
  have hagree := entryPoints_agree strayEverywhere none
  rcases hagree.1 htail (by decide) hbare with ⟨hstatus, -, hprinted⟩
  refine ⟨⟨?_, ?_⟩, ?_, ?_⟩
  · intro htwo
    rcases hstatus.mp htwo with ⟨error, herror⟩
    rw [hmessages] at herror
    cases herror
  · rw [(hprinted hmessages).2.1]
    decide +kernel
  · have hread : readArguments ["check".toList, ['-']]
        = .ok ⟨false, 0, ⟨['-'], none, none, false, []⟩⟩ := rfl
    have hread' : readArguments ["check".toList, "a.xml".toList]
        = .ok (Request.under ⟨false, 0, ⟨['-'], none, none, false, []⟩⟩ "a.xml".toList) := rfl
    have hprints : Request.PrintsAs ⟨false, 0, ⟨['-'], none, none, false, []⟩⟩ strayEverywhere
        .text := by
      intro settings hsettings
      rw [hload, Except.ok.injEq] at hsettings
      rw [← hsettings]
      rfl
    exact (hagree.2 hsources rfl hfile (by decide) hread rfl hread').2.2.1 hprints
  · have hread : readArguments ["check".toList, "--format=json".toList, ['-']]
        = .ok ⟨false, 0, ⟨['-'], some .json, none, false, []⟩⟩ := rfl
    have hread' : readArguments ["check".toList, "--format=json".toList, "a.xml".toList]
        = .ok (Request.under ⟨false, 0, ⟨['-'], some .json, none, false, []⟩⟩ "a.xml".toList) :=
      rfl
    have hne : (runProgram strayEverywhere none
        ["check".toList, "--format=json".toList, ['-']]).status ≠ 2 := by decide +kernel
    exact (hagree.2 hsources rfl hfile (by decide) hread rfl hread').2.2.2 (fun _ _ => rfl) rfl hne

end TagNesting
