import TagNesting.Program
import TagNesting.Proofs.FailFlag

/-!
# How a Check Ends

The status with which a check ends tells apart the runs that come to no report, those whose
findings matter, and the rest. What it does not tell is how the report looked: the status is
that of all findings, whether they are shown or not, in whatever format and to whomever.

So two command lines that are accepted end alike if they agree on the source, the void
elements and the flag that makes findings matter. They print the same if they also agree
on the format and the limit and neither of them is quiet, whatever is logged besides.

## Main definitions

* `Surroundings.load`: The settings.
* `Surroundings.HasSource`: A text is the source under a path.
* `CannotReport`: The settings cannot be loaded or there is no source.
* `FindingsMatter`: There are findings and they make the check fail.

## Theorems

* `source_eq_ok_iff`: A check gets the source that there is.
* `run_of_load_error`, `run_of_no_source`, `run_of_source`: The runs there are.
* `status_run_eq_two_iff`, `status_run_eq_one_iff`: What their statuses mean.
* `status_run_congr`, `stdout_run_congr`: Runs that end or print alike.
* `runProgram_status`: How the program ends.
-/

namespace TagNesting

namespace Surroundings

/-- The settings, or why there are none. -/
def load (surroundings : Surroundings) : Except SettingsError Settings :=
  loadSettings surroundings.files (surroundings.user.map UserSettings.file)

/-- A text is the source under a path. -/
inductive HasSource (surroundings : Surroundings) (path text : List Char) : Prop where
  /-- It comes in on standard input. -/
  | piped (hpath : path = CheckRequest.stdinPath)
      (htext : decodeUtf8? surroundings.stdin = some text) : HasSource surroundings path text
  /-- It is in a file. -/
  | stored {bytes : List UInt8} (hpath : path ≠ CheckRequest.stdinPath)
      (hbytes : surroundings.files path = .ok bytes) (htext : decodeUtf8? bytes = some text) :
      HasSource surroundings path text

end Surroundings

/-- The settings cannot be loaded, or what is under the path is missing, is no file or is not
    UTF-8. -/
def CannotReport (surroundings : Surroundings) (path : List Char) : Prop :=
  (∃ error, surroundings.load = .error error) ∨ ∀ text, ¬ surroundings.HasSource path text

/-- There are findings, and the flag or the settings say that they make the check fail. -/
def FindingsMatter (asked : Prop) (check : CheckRequest) (settings : Settings)
    (source : List Char) : Prop :=
  findings (check.voidNames settings) source ≠ [] ∧ (asked ∨ settings.failOnError = true)

section Run

variable {surroundings : Surroundings} {settings : Settings} {error : SettingsError}
  {text : List Char}

-- Bytes are a text if they are UTF-8.
theorem textOfBytes_eq_ok_iff {bytes : List UInt8} :
    textOfBytes bytes = .ok text ↔ decodeUtf8? bytes = some text := by
  rw [textOfBytes]
  cases decodeUtf8? bytes with
  | none => exact ⟨(nomatch ·), (nomatch ·)⟩
  | some read => rw [Except.ok.injEq, Option.some.injEq]

-- Wrapping a failure leaves the successes as they are.
theorem mapError_eq_ok_iff {ε ε' α : Type} {wrap : ε → ε'} {result : Except ε α} {a : α} :
    result.mapError wrap = .ok a ↔ result = .ok a := by
  cases result with
  | error error => exact ⟨(nomatch ·), (nomatch ·)⟩
  | ok b => exact ⟨fun h => congrArg Except.ok (Except.ok.inj h),
      fun h => congrArg Except.ok (Except.ok.inj h)⟩

/-- Under a path that does not stand for standard input there is the text of the file. -/
theorem hasSource_iff_of_ne {path : List Char} (hpath : path ≠ CheckRequest.stdinPath) :
    surroundings.HasSource path text ↔ surroundings.files.text path = .ok text := by
  constructor
  · rintro (⟨heq, _⟩ | ⟨_, hbytes, htext⟩)
    · exact absurd heq hpath
    · rw [FileReader.text, hbytes]
      exact textOfBytes_eq_ok_iff.mpr htext
  · intro h
    rcases exists_of_bind_eq_ok h with ⟨bytes, hbytes, htext⟩
    exact .stored hpath hbytes (textOfBytes_eq_ok_iff.mp htext)

/-- A check gets the source that there is under its path. -/
theorem source_eq_ok_iff {check : CheckRequest} :
    check.source surroundings = .ok text ↔ surroundings.HasSource check.path text := by
  rw [CheckRequest.source]
  by_cases hpath : check.path = CheckRequest.stdinPath
  · rw [if_pos hpath, mapError_eq_ok_iff, textOfBytes_eq_ok_iff]
    constructor
    · exact .piped hpath
    · rintro (⟨_, htext⟩ | ⟨hne, _, _⟩)
      · exact htext
      · exact absurd hpath hne
  · rw [if_neg hpath, mapError_eq_ok_iff, readSource, mapError_eq_ok_iff, hasSource_iff_of_ne hpath]

/-- Where the settings cannot be loaded nothing else is looked at. -/
theorem run_of_load_error (h : surroundings.load = .error error) (request : Request)
    (filter : LogFilter) :
    request.run surroundings filter
      = ⟨failureStatus, [],
        logText filter surroundings.settingsEvents ++ (CheckFailure.settings error).text⟩ := by
  have hsettings : surroundings.settings = .error (.settings error) := by
    rw [Surroundings.settings, ← Surroundings.load, h]
    rfl
  rw [Request.run, performCheck, hsettings]

-- Loaded settings are the ones that a check goes by.
theorem settings_eq_ok (h : surroundings.load = .ok settings) :
    surroundings.settings = .ok settings := mapError_eq_ok_iff.mpr h

/-- With settings but without a source nothing is printed, and the check has failed. -/
theorem run_of_no_source {request : Request} (h : surroundings.load = .ok settings)
    (hsource : ∀ text, ¬ surroundings.HasSource request.check.path text) (filter : LogFilter) :
    (request.run surroundings filter).status = failureStatus ∧
      (request.run surroundings filter).stdout = [] := by
  cases hread : request.check.source surroundings with
  | error failure =>
      rw [Request.run, performCheck, settings_eq_ok h, hread]
      exact ⟨rfl, rfl⟩
  | ok text => exact absurd (source_eq_ok_iff.mp hread) (hsource text)

/-- With both, what the check comes to decides the status and the output. -/
theorem run_of_source {request : Request} (h : surroundings.load = .ok settings)
    (hsource : surroundings.HasSource request.check.path text) (filter : LogFilter) :
    (request.run surroundings filter).status
        = (request.check.outcome settings request.quiet text).status ∧
      (request.run surroundings filter).stdout
        = (request.check.outcome settings request.quiet text).stdout := by
  rw [Request.run, performCheck, settings_eq_ok h, source_eq_ok_iff.mpr hsource]
  exact ⟨rfl, rfl⟩

/-- The three sorts of runs: without settings, without a source, and with a report. -/
theorem run_cases (surroundings : Surroundings) (path : List Char) :
    (∃ error, surroundings.load = .error error) ∨
      (∃ settings, surroundings.load = .ok settings ∧
        ∀ text, ¬ surroundings.HasSource path text) ∨
      ∃ settings text, surroundings.load = .ok settings ∧ surroundings.HasSource path text := by
  cases hload : surroundings.load with
  | error error => exact Or.inl ⟨error, rfl⟩
  | ok settings =>
      by_cases hsource : ∃ text, surroundings.HasSource path text
      · rcases hsource with ⟨text, hsource⟩
        exact Or.inr (Or.inr ⟨settings, text, rfl, hsource⟩)
      · exact Or.inr (Or.inl ⟨settings, rfl, not_exists.mp hsource⟩)

-- The status is read off all findings, before any are left out of the report.
theorem status_outcome_eq (check : CheckRequest) (settings : Settings) (quiet : Bool)
    (source : List Char) :
    (check.outcome settings quiet source).status
      = if (!(findings (check.voidNames settings) source).isEmpty &&
          (check.failOnError || settings.failOnError)) = true then 1 else 0 := rfl

/-- The status of a check that comes to a report is one if the findings matter and zero otherwise.
    -/
theorem status_outcome (check : CheckRequest) (settings : Settings) (quiet : Bool)
    (source : List Char) :
    (check.outcome settings quiet source).status = 1
        ∧ FindingsMatter (check.failOnError = true) check settings source ∨
      (check.outcome settings quiet source).status = 0
        ∧ ¬ FindingsMatter (check.failOnError = true) check settings source := by
  have hmatter : FindingsMatter (check.failOnError = true) check settings source
      ↔ (!(findings (check.voidNames settings) source).isEmpty &&
        (check.failOnError || settings.failOnError)) = true := by
    rw [FindingsMatter, Bool.and_eq_true, Bool.not_eq_true', List.isEmpty_eq_false_iff,
      Bool.or_eq_true]
  rw [hmatter, status_outcome_eq]
  by_cases hfails : (!(findings (check.voidNames settings) source).isEmpty &&
      (check.failOnError || settings.failOnError)) = true
  · exact Or.inl ⟨if_pos hfails, hfails⟩
  · exact Or.inr ⟨if_neg hfails, hfails⟩

/-- A run ends with two if it comes to no report, and then nothing is printed. -/
theorem status_run_eq_two_iff (surroundings : Surroundings) (request : Request)
    (filter : LogFilter) :
    ((request.run surroundings filter).status = 2
        ↔ CannotReport surroundings request.check.path) ∧
      ((request.run surroundings filter).status = 2 →
        (request.run surroundings filter).stdout = []) := by
  rcases run_cases surroundings request.check.path with
    ⟨error, herror⟩ | ⟨settings, hload, hsource⟩ | ⟨settings, text, hload, hsource⟩
  · rw [run_of_load_error herror]
    exact ⟨iff_of_true rfl (Or.inl ⟨error, herror⟩), fun _ => rfl⟩
  · rcases run_of_no_source hload hsource filter with ⟨hstatus, hstdout⟩
    exact ⟨iff_of_true hstatus (Or.inr hsource), fun _ => hstdout⟩
  · have hne : (request.run surroundings filter).status ≠ 2 := by
      rw [(run_of_source hload hsource filter).1]
      rcases status_outcome request.check settings request.quiet text with ⟨hone, _⟩ | ⟨hzero, _⟩
      · rw [hone]
        decide
      · rw [hzero]
        decide
    refine ⟨iff_of_false hne ?_, fun htwo => absurd htwo hne⟩
    rintro (⟨error, herror⟩ | hnone)
    · rw [hload] at herror
      cases herror
    · exact hnone text hsource

/-- A run with a report ends with one if the findings matter, else with zero. -/
theorem status_run_eq_one_iff {request : Request} (h : surroundings.load = .ok settings)
    (hsource : surroundings.HasSource request.check.path text) (filter : LogFilter) :
    ((request.run surroundings filter).status = 1
        ↔ FindingsMatter (request.check.failOnError = true) request.check settings text) ∧
      ((request.run surroundings filter).status = 0
        ↔ ¬ FindingsMatter (request.check.failOnError = true) request.check settings text) := by
  rw [(run_of_source h hsource filter).1]
  rcases status_outcome request.check settings request.quiet text with ⟨hone, hmatter⟩ |
    ⟨hzero, hmatter⟩
  · rw [hone]
    exact ⟨iff_of_true rfl hmatter, iff_of_false (by decide) (not_not_intro hmatter)⟩
  · rw [hzero]
    exact ⟨iff_of_false (by decide) hmatter, iff_of_true rfl hmatter⟩

/-- Requests for the same findings to matter end alike, however the report is wanted. -/
theorem status_run_congr {request other : Request} (hpath : other.check.path = request.check.path)
    (hvoid : other.check.voidElements = request.check.voidElements)
    (hfail : other.check.failOnError = request.check.failOnError)
    (surroundings : Surroundings) (filter filter' : LogFilter) :
    (other.run surroundings filter').status = (request.run surroundings filter).status := by
  rcases run_cases surroundings request.check.path with
    ⟨error, herror⟩ | ⟨settings, hload, hsource⟩ | ⟨settings, text, hload, hsource⟩
  · rw [run_of_load_error herror, run_of_load_error herror]
  · rw [(run_of_no_source hload hsource filter).1,
      (run_of_no_source hload (hpath ▸ hsource) filter').1]
  · have hnames : other.check.voidNames settings = request.check.voidNames settings := by
      rw [CheckRequest.voidNames, CheckRequest.voidNames, hvoid]
    rw [(run_of_source hload hsource filter).1,
      (run_of_source hload (hpath ▸ hsource) filter').1, status_outcome_eq, status_outcome_eq,
      hnames, hfail]

/-- A quiet run prints nothing, however it ends. -/
theorem stdout_run_of_quiet {request : Request} (h : request.quiet = true)
    (surroundings : Surroundings) (filter : LogFilter) :
    (request.run surroundings filter).stdout = [] := by
  rcases run_cases surroundings request.check.path with
    ⟨error, herror⟩ | ⟨settings, hload, hsource⟩ | ⟨settings, text, hload, hsource⟩
  · rw [run_of_load_error herror]
  · exact (run_of_no_source hload hsource filter).2
  · rw [(run_of_source hload hsource filter).2, CheckOutcome.stdout, CheckRequest.outcome, h]
    rfl

/-- Requests for the same report print the same. -/
theorem stdout_run_congr {request other : Request} (hcheck : other.check = request.check)
    (hquiet : other.quiet = request.quiet) (surroundings : Surroundings)
    (filter filter' : LogFilter) :
    (other.run surroundings filter').stdout = (request.run surroundings filter).stdout := by
  rcases run_cases surroundings request.check.path with
    ⟨error, herror⟩ | ⟨settings, hload, hsource⟩ | ⟨settings, text, hload, hsource⟩
  · rw [run_of_load_error herror, run_of_load_error herror]
  · rw [(run_of_no_source hload hsource filter).2,
      (run_of_no_source hload (hcheck ▸ hsource) filter').2]
  · rw [(run_of_source hload hsource filter).2,
      (run_of_source hload (hcheck ▸ hsource) filter').2, hcheck, hquiet]

end Run

/-- A directory with a closing tag that nothing opens, and settings by which findings matter. -/
def strayDirectory : Surroundings where
  files := fun path =>
    if path = "a.xml".toList then .ok [0x3C, 0x2F, 0x62, 0x3E]
    else if path = "tagcheck.toml".toList then
      .ok ("fail_on_error = true".toList.map fun c => UInt8.ofNat c.toNat)
    else .error .notFound
  stdin := []
  user := none

end TagNesting
