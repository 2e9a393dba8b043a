import TagNesting.Proofs.FindingCount
import TagNesting.Proofs.JsonText
import TagNesting.Report

/-!
# Reports as JSON

The report in JSON is a document, and what it says can be had from it by anyone who looks
up its fields. Nothing in the names of tags or in the path can get in the way.

A reader tells the kinds of findings apart by the fields that are there. That the list of
open tags is there for one kind and for that kind always needs more than the writer: an
empty list would be left out, and it is the check that never comes up with one.

## Main definitions

* `FindingEntry`, `ReportEntry`: What a document says of a finding, and of a report.
* `FindingEntry.ofJson?`, `ReportEntry.ofJson?`: How that is had from a document.
* `Finding.entry`, `Report.entry`: What it should say.

## Theorems

* `unclosed_nil_notMem_findings`: The tags left open are never none.
* `ofJson?_toJson`: The object of a finding says all that it should.
* `readJson_json`: The document of a report does.
-/

namespace TagNesting

/-! ## Reading a report -/

namespace Json

/-- The string that a value is. -/
def text? : Json → Option (List Char)
  | .text value => some value
  | _ => none

/-- The whole number that a value is. -/
def whole? : Json → Option Nat
  | .number (.natural n) => some n
  | _ => none

/-- The items of an array, if all of them can be read. -/
def items? {α : Type} (read : Json → Option α) : Json → Option (List α)
  | .array items => items.mapM read
  | _ => none

/-- What a field says. It has to be there. -/
def required? {α : Type} (name : String) (read : Json → Option α) (value : Json) : Option α :=
  (value.field? name.toList).bind read

/-- What a field says, or that there is none. One that cannot be read is not the same as none. -/
def optional? {α : Type} (name : String) (read : Json → Option α) (value : Json) :
    Option (Option α) :=
  match value.field? name.toList with
  | some field => (read field).map some
  | none => some none

end Json

/-- What a document says of a finding. -/
structure FindingEntry where
  /-- The code of its kind. -/
  code : List Char
  /-- The name of its kind. -/
  kind : List Char
  /-- The finding in one line. -/
  message : List Char
  /-- The number of the closing tag's line, if the field is there. -/
  line? : Option Nat
  /-- The name of the closing tag, if the field is there. -/
  tag? : Option (List Char)
  /-- The name that would have been right, if the field is there. -/
  expected? : Option (List Char)
  /-- The names of the tags left open, if the field is there. -/
  openTags? : Option (List (List Char))
  deriving DecidableEq, Repr

/-- What a document says of a report. -/
structure ReportEntry where
  /-- The name of the source. -/
  path : List Char
  /-- The number of findings. -/
  total : Nat
  /-- The number of those that are listed. -/
  reported : Nat
  /-- The findings that are listed. -/
  errors : List FindingEntry
  deriving DecidableEq, Repr

/-- What an object says of a finding. -/
def FindingEntry.ofJson? (value : Json) : Option FindingEntry := do
  let code ← value.required? "code" Json.text?
  let kind ← value.required? "kind" Json.text?
  let message ← value.required? "message" Json.text?
  let line? ← value.optional? "line" Json.whole?
  let tag? ← value.optional? "tag" Json.text?
  let expected? ← value.optional? "expected" Json.text?
  let openTags? ← value.optional? "open_tags" (Json.items? Json.text?)
  return ⟨code, kind, message, line?, tag?, expected?, openTags?⟩

/-- What an object says of a report. -/
def ReportEntry.ofJson? (value : Json) : Option ReportEntry := do
  let path ← value.required? "path" Json.text?
  let total ← value.required? "total" Json.whole?
  let reported ← value.required? "reported" Json.whole?
  let errors ← value.required? "errors" (Json.items? FindingEntry.ofJson?)
  return ⟨path, total, reported, errors⟩

/-- What should be said of a finding: the line and the name of a closing tag, what was expected
    if it is another name, and the names left open if the source has ended. -/
def Finding.entry : Finding → FindingEntry
  | .unexpectedClosing line name span =>
      ⟨"T100".toList, "unexpected_closing".toList,
        Finding.message (.unexpectedClosing line name span), some line, some name, none, none⟩
  | .mismatchedClosing line name span expected =>
      ⟨"T101".toList, "mismatched_closing".toList,
        Finding.message (.mismatchedClosing line name span expected), some line, some name,
        some expected.name, none⟩
  | .unclosed tags =>
      ⟨"T102".toList, "unclosed_at_eof".toList, Finding.message (.unclosed tags), none, none, none,
        some (tags.map OpenTag.name)⟩

/-- How many findings should be shown: all of them, or as many as there may be. -/
def Report.shown (report : Report) : Nat :=
  match report.limit with
  | none => report.findings.length
  | some limit => min limit report.findings.length

/-- What should be said of a report. The findings that are shown are the first ones. -/
def Report.entry (report : Report) : ReportEntry where
  path := report.path
  total := report.findings.length
  reported := report.shown
  errors := (report.findings.take report.shown).map Finding.entry

/-- Items that can each be read back are read back all together. -/
theorem mapM_map_eq_some {α β γ : Type} {encode : α → β} {read : β → Option γ} {said : α → γ}
    {xs : List α} (h : ∀ x ∈ xs, read (encode x) = some (said x)) :
    (xs.map encode).mapM read = some (xs.map said) := by
  induction xs with
  | nil => rfl
  | cons x xs ih =>
      rw [List.forall_mem_cons] at h
      rw [List.map_cons, List.mapM_cons, h.1, ih h.2]
      rfl

/-- The object of a finding says all that it should, unless it lists no open tags. -/
theorem ofJson?_toJson {finding : Finding} (h : finding ≠ .unclosed []) :
    FindingEntry.ofJson? finding.toJson = some finding.entry := by
  cases finding with
  | unexpectedClosing line name span => rfl
  | mismatchedClosing line name span expected => rfl
  | unclosed tags =>
      have hnames : (Json.array ((tags.map OpenTag.name).map Json.text)).items? Json.text?
          = some (tags.map OpenTag.name) := by
        have htext : ∀ name ∈ tags.map OpenTag.name, (Json.text name).text? = some (id name) :=
          fun _ _ => rfl
        have hread := mapM_map_eq_some htext
        rwa [List.map_id] at hread
      have hfields : FindingEntry.ofJson? (Finding.unclosed tags).toJson
          = (((Json.array ((tags.map OpenTag.name).map Json.text)).items? Json.text?).map
              some).bind fun openTags? =>
              some { (Finding.unclosed tags).entry with openTags? } := by
        cases tags with
        | nil => exact absurd rfl h
        | cons tag tags => rfl
      rw [hfields, hnames]
      rfl

/-- The tags left open are never none. -/
theorem unclosed_nil_notMem_findings (void : List (List Char)) (source : List Char) :
    .unclosed [] ∉ findings void source := by
  intro h
  rw [findings_eq, List.mem_append] at h
  rcases h with hfound | hlast
  · exact unclosed_notMem_found _ _ _ hfound
  · cases hopen : (walk [] (nestingTags void source)).2 with
    | nil =>
        rw [hopen] at hlast
        exact absurd hlast List.not_mem_nil
    | cons top below =>
        rw [hopen, Option.mem_toList] at hlast
        have hnil := Finding.unclosed.inj (Option.some.inj hlast)
        exact absurd hnil (List.reverse_ne_nil_iff.mpr (List.cons_ne_nil _ _))

/-- A field that may be missing is read back if its value is. -/
theorem legible_optionalField {α : Type} {name : String} {encode : α → Json} {value? : Option α}
    {room : Nat} (h : ∀ value ∈ value?, (encode value).Legible room) :
    ∀ field ∈ optionalField name encode value?, field.2.Legible room := by
  intro field hfield
  cases value? with
  | none => exact absurd hfield List.not_mem_nil
  | some value =>
      rw [optionalField, List.mem_singleton] at hfield
      rw [hfield]
      exact h value rfl

-- Texts nest nothing, and whole numbers are read back up to 64 bits.
theorem legible_text (room : Nat) (text : List Char) : (Json.text text).Legible room := by
  rw [Json.Legible]
  · trivial
  all_goals exact fun _ heq => nomatch heq

theorem legible_ofNat {n : Nat} (h : n ≤ maxWhole) (room : Nat) : (Json.ofNat n).Legible room := by
  rw [Json.ofNat, Json.Legible]
  exact h

/-- An object nests one level for itself and one for a list of names. -/
theorem legible_finding {finding : Finding} {room : Nat} (hroom : 2 < room)
    (hline : ∀ line ∈ finding.line?, line ≤ maxWhole) : finding.toJson.Legible room := by
  rw [Finding.toJson, Json.Legible, Json.legibleFields_iff]
  refine ⟨by omega, ?_⟩
  simp only [List.forall_mem_append, List.forall_mem_cons, List.not_mem_nil, false_imp_iff,
    implies_true, and_true, legible_text, true_and]
  refine ⟨⟨⟨?_, ?_⟩, ?_⟩, ?_⟩
  · exact legible_optionalField fun line hmem => legible_ofNat (hline line hmem) _
  · exact legible_optionalField fun name _ => legible_text _ name
  · exact legible_optionalField fun name _ => legible_text _ name
  · refine legible_optionalField fun names _ => ?_
    rw [Json.Legible, Json.legibleItems_iff]
    refine ⟨by omega, fun item hitem => ?_⟩
    rcases List.mem_map.mp hitem with ⟨name, _, rfl⟩
    exact legible_text _ name

/-- The findings that are shown are the first ones, as many as should be. -/
theorem reported_eq_take (report : Report) :
    report.reported = report.findings.take report.shown := by
  rw [Report.reported, Report.shown]
  cases report.limit with
  | none => exact List.take_length.symm
  | some limit => exact List.take_eq_take_min

theorem length_reported (report : Report) : report.reported.length = report.shown := by
  have hshown : report.shown ≤ report.findings.length := by
    rw [Report.shown]
    cases report.limit with
    | none => exact Nat.le_refl _
    | some limit => exact Nat.min_le_right _ _
  rw [reported_eq_take, List.length_take, Nat.min_eq_left hshown]

theorem length_entry_errors (report : Report) :
    report.entry.errors.length = report.entry.reported := by
  have hlength := length_reported report
  rw [reported_eq_take] at hlength
  exact (List.length_map _).trans hlength

/-- A report nests one level for itself, one for its findings and two for each of them. -/
theorem legible_report {report : Report} {room : Nat} (hroom : 4 < room)
    (htotal : report.total ≤ maxWhole)
    (hline : ∀ finding ∈ report.findings, ∀ line ∈ finding.line?, line ≤ maxWhole) :
    report.toJson.Legible room := by
  have hshown : report.reported.length ≤ report.total := by
    rw [reported_eq_take]
    exact List.length_take_le' _ _
  rw [Report.toJson, Json.Legible, Json.legibleFields_iff]
  refine ⟨by omega, ?_⟩
  simp only [List.forall_mem_cons, List.not_mem_nil, false_imp_iff, implies_true, and_true,
    legible_text, true_and]
  refine ⟨legible_ofNat htotal _, legible_ofNat (Nat.le_trans hshown htotal) _, ?_⟩
  rw [Json.Legible, Json.legibleItems_iff]
  refine ⟨by omega, fun item hitem => ?_⟩
  rcases List.mem_map.mp hitem with ⟨finding, hfinding, rfl⟩
  rw [reported_eq_take] at hfinding
  exact legible_finding (by omega) (hline finding (List.mem_of_mem_take hfinding))

/-- The object of a report says all that it should. -/
theorem ofJson?_report {report : Report} (h : .unclosed [] ∉ report.findings) :
    ReportEntry.ofJson? report.toJson = some report.entry := by
  have herrors : (Json.array (report.reported.map Finding.toJson)).items? FindingEntry.ofJson?
      = some (report.reported.map Finding.entry) := by
    refine mapM_map_eq_some fun finding hfinding => ofJson?_toJson fun hunclosed => ?_
    rw [reported_eq_take] at hfinding
    exact h (hunclosed ▸ List.mem_of_mem_take hfinding)
  have hfields : ReportEntry.ofJson? report.toJson
      = ((Json.array (report.reported.map Finding.toJson)).items? FindingEntry.ofJson?).bind
          fun errors => some ⟨report.path, report.total, report.reported.length, errors⟩ := rfl
  rw [hfields, herrors, length_reported, reported_eq_take]
  rfl

/-- The document of a check's report says what it should, whatever the path and the source hold
    and whatever names are void, and it lists as many findings as it says. The numbers in it are
    no larger than the source, whose size is one of 64 bits. -/
theorem readJson_json (void : List (List Char)) (path source : List Char) (limit : Option Nat)
    (h : byteLength source ≤ maxWhole) :
    ∃ document, readJson (Report.json ⟨path, source, findings void source, limit⟩) = .ok document ∧
      ReportEntry.ofJson? document
        = some (Report.entry ⟨path, source, findings void source, limit⟩) ∧
      (Report.entry ⟨path, source, findings void source, limit⟩).errors.length
        = (Report.entry ⟨path, source, findings void source, limit⟩).reported := by
  have hlegible : (Report.toJson ⟨path, source, findings void source, limit⟩).Legible
      maxJsonDepth := by
    refine legible_report (by decide) ?_ fun finding hfinding line hline => ?_
    · exact Nat.le_trans (length_findings_le void source) h
    · exact Nat.le_trans (line?_le_byteLength hfinding hline) h
  refine ⟨_, readJson_indented hlegible, ?_, ?_⟩
  · exact ofJson?_report (unclosed_nil_notMem_findings void source)
  · exact length_entry_errors _

/-- Quotes, backslashes and control characters in the path and in the names of tags, and three
    findings of which two are shown. -/
theorem readJson_json_quote :
    byteLength "<p></a\t\"\\\x01></q><r>".toList ≤ maxWhole ∧
      ∃ document, readJson (Report.json ⟨"\"\\\n".toList, "<p></a\t\"\\\x01></q><r>".toList,
          findings [] "<p></a\t\"\\\x01></q><r>".toList, some 2⟩) = .ok document ∧
        ReportEntry.ofJson? document = some ⟨"\"\\\n".toList, 3, 2,
          [⟨"T101".toList, "mismatched_closing".toList,
              "Line 1: Mismatched closing tag </a\t\"\\\x01>. Expected closing for <p>".toList,
              some 1, some "a\t\"\\\x01".toList, some "p".toList, none⟩,
            ⟨"T100".toList, "unexpected_closing".toList,
              "Line 1: Unexpected closing tag </q>".toList, some 1, some "q".toList, none,
              none⟩]⟩ := by
  have hbound : byteLength "<p></a\t\"\\\x01></q><r>".toList ≤ maxWhole := by decide +kernel
  refine ⟨hbound, ?_⟩
  rcases readJson_json [] "\"\\\n".toList _ (some 2) hbound with ⟨document, hread, hentry, _⟩
  refine ⟨document, hread, hentry.trans ?_⟩
  decide +kernel

end TagNesting
