import TagNesting.Proofs.Heading
import TagNesting.Proofs.Message
import TagNesting.Proofs.OffsetMap
import TagNesting.Proofs.ReportJson

/-!
# Formats of a Report

The three formats of a report list the same findings, and these are the first ones that the
check came up with, as many as the limit allows. Each format is made from the list on its
own, so each is compared with the list: a text by its lines, a document by what is read
from it, and a picture by its first line and by the places that it marks.

A higher limit makes a text longer at the end, and pictures likewise. With a document this
is not so, for the number of the findings that it lists stands in front of them.

The summary says how many findings are shown if that is not all of them. There is one
bracket in it at most, so no other number can be taken for that one.

## Main definitions

* `checkReport`: The report on what a check finds.
* `LimitLe`: A limit allows no more than another one does.
* `Diagnostic.Shows`: A diagnostic says and marks what its finding does.
* `Report.Lists`: A report lists some findings in each of its formats.
* `MentionsShown`: A text gives a number of findings as shown.

## Theorems

* `shows_diagnostic`: The diagnostic of a finding shows it.
* `reported_prefix`: What is shown under a limit comes first under a higher one.
* `mentionsShown_summary`: When the summary tells how many findings are shown.
* `lists_checkReport`: The report on a check lists the findings up to its limit.
* `formats_agree`: The formats and the limits of a report agree.
-/

namespace TagNesting

/-- The report on what a check finds in a source. -/
def checkReport (void : List (List Char)) (path source : List Char) (limit : Option Nat) :
    Report where
  path := path
  source := source
  findings := findings void source
  limit := limit

/-- A limit allows no more findings than another one does. No limit allows the most. -/
def LimitLe : Option Nat → Option Nat → Prop
  | _, none => True
  | some m, some n => m ≤ n
  | none, some _ => False

/-- A diagnostic says and marks what its finding does. -/
structure Diagnostic.Shows (diagnostic : Diagnostic) (finding : Finding) : Prop where
  /-- The code is that of the finding. -/
  code_eq : diagnostic.code = finding.code
  /-- The message is that of the finding. -/
  message_eq : diagnostic.message = finding.message
  /-- The code and the message are the first line of what is printed. -/
  heading : ∀ coloured, ∃ rest, diagnostic.render coloured
    = headingLine coloured finding.code finding.message ++ '\n' :: rest
  /-- The place to point at is marked as the fault. -/
  primary : ∃ callout ∈ diagnostic.callouts, callout.isPrimary = true ∧
    finding.primarySpan? = some callout.span
  /-- Each tag that the finding names is marked once, in the order in which it names them. -/
  spans_eq : diagnostic.callouts.map Callout.span = finding.places.map OpenTag.span

/-- A report lists some findings in each of its formats. -/
structure Report.Lists (report : Report) (shown : List Finding) : Prop where
  /-- A text has their messages, each on a line. -/
  text_eq : report.text.splitOn '\n' = foundErrorsText :: shown.map Finding.message ++ [[]]
  /-- A document has them as its errors, and it can be read unless a number in it is too large,
      which takes a source whose size is not one of 64 bits. -/
  json_eq : ∃ document errors, report.json = document.indented 0 ∧
    (byteLength report.source ≤ maxWhole → readJson report.json = .ok document) ∧
    ReportEntry.ofJson? document = some ⟨report.path, report.total, shown.length, errors⟩ ∧
    errors = shown.map Finding.entry ∧
    errors.map FindingEntry.code = shown.map Finding.code ∧
    errors.map FindingEntry.message = shown.map Finding.message
  /-- Pictures are those of their diagnostics, an empty line behind each. -/
  pretty_eq : ∀ coloured, report.pretty coloured
    = (shown.map (Finding.diagnostic report.path report.source)).flatMap
        (·.render coloured ++ ['\n', '\n'])
  /-- Each diagnostic shows its finding. -/
  shows : ∀ finding ∈ shown, (finding.diagnostic report.path report.source).Shows finding

/-- A text gives a number of findings as the number of those that are shown. -/
def MentionsShown (text : List Char) (k : Nat) : Prop :=
  " (".toList ++ decimal k ++ " shown)".toList <:+: text

/-! ## One finding -/

namespace Finding

theorem code_entry (finding : Finding) : finding.entry.code = finding.code := by
  cases finding with
  | unexpectedClosing => rfl
  | mismatchedClosing => rfl
  | unclosed => rfl

theorem message_entry (finding : Finding) : finding.entry.message = finding.message := by
  cases finding with
  | unexpectedClosing => rfl
  | mismatchedClosing => rfl
  | unclosed => rfl

theorem span_callouts (finding : Finding) :
    finding.callouts.map Callout.span = finding.places.map OpenTag.span := by
  cases finding with
  | unexpectedClosing => rfl
  | mismatchedClosing => rfl
  | unclosed tags => exact List.map_map

/-- The place to point at is there, and it is marked as the fault, unless there is no tag to
    point at. -/
theorem exists_primary_callout {finding : Finding} (h : finding ≠ unclosed []) :
    ∃ callout ∈ finding.callouts, callout.isPrimary = true ∧
      finding.primarySpan? = some callout.span := by
  cases finding with
  | unexpectedClosing => exact ⟨_, List.mem_cons_self, rfl, rfl⟩
  | mismatchedClosing => exact ⟨_, List.mem_cons_self, rfl, rfl⟩
  | unclosed tags =>
      -- Of the tags left open, it is the one opened last.
      have hne : tags ≠ [] := fun htags => h (congrArg unclosed htags)
      refine ⟨_, List.mem_map_of_mem (List.getLast_mem hne), rfl, ?_⟩
      rw [primarySpan?, List.getLast?_eq_some_getLast hne]
      rfl

/-- The diagnostic of a finding shows it. -/
theorem shows_diagnostic {finding : Finding} (hmessage : '\n' ∉ finding.message)
    (hne : finding ≠ unclosed []) (path source : List Char) :
    (finding.diagnostic path source).Shows finding where
  code_eq := rfl
  message_eq := rfl
  heading := exists_render_eq hmessage
  primary := exists_primary_callout hne
  spans_eq := span_callouts finding

end Finding

/-! ## Limits -/

/-- What is shown under a limit comes first under a higher one. -/
theorem reported_prefix (void : List (List Char)) (path source : List Char)
    {limit other : Option Nat} (h : LimitLe limit other) :
    (checkReport void path source limit).reported
      <+: (checkReport void path source other).reported := by
  cases other with
  | none =>
      cases limit with
      | none => exact List.prefix_rfl
      | some m => exact List.take_prefix _ _
  | some n =>
      cases limit with
      | none => exact absurd h id
      | some m => exact List.take_prefix_take_left h

/-- The pretty report is its diagnostics one after the other, each with an empty line behind it. -/
theorem pretty_eq_flatMap {report : Report} (h : report.findings ≠ []) (coloured : Bool) :
    report.pretty coloured
      = (report.reported.map (Finding.diagnostic report.path report.source)).flatMap
          (·.render coloured ++ ['\n', '\n']) := by
  rw [Report.pretty, if_neg (by rwa [List.isEmpty_iff]), List.flatMap_map]

theorem bytesOf_prefix {text more : List Char} (h : text <+: more) :
    bytesOf text <+: bytesOf more := h.flatMap _

/-! ## The summary -/

-- A text that holds a character once is cut by it in one way only.
theorem append_cons_injective_of_once {α : Type} [BEq α] [LawfulBEq α] {x : α}
    {front other rest more : List α} (hother : x ∉ other) (hmore : x ∉ more)
    (h : front ++ x :: rest = other ++ x :: more) : front = other ∧ rest = more := by
  refine append_cons_injective ?_ hother h
  have hcount := congrArg (List.count x) h
  rw [List.count_append, List.count_append, List.count_cons_self, List.count_cons_self,
    List.count_eq_zero.mpr hother, List.count_eq_zero.mpr hmore] at hcount
  exact List.count_eq_zero.mp (by omega)

-- What a summary says in any case.
theorem notMem_foundCount (report : Report) :
    '(' ∉ "Found ".toList ++ decimal report.total
      ++ (if report.total = 1 then " error".toList else " errors".toList) := by
  have hnoun : '(' ∉ if report.total = 1 then " error".toList else " errors".toList := by
    split
    · decide
    · decide
  rw [List.mem_append, List.mem_append, not_or, not_or]
  exact ⟨⟨by decide, notMem_decimal (by decide)⟩, hnoun⟩

/-- The summary tells how many findings are shown if there are more, and it tells no other
    number. -/
theorem mentionsShown_summary (report : Report) (k : Nat) :
    MentionsShown report.summary k ↔ k = report.shown ∧ k < report.total := by
  have hfound := notMem_foundCount report
  rw [MentionsShown, Report.summary, length_reported]
  generalize "Found ".toList ++ decimal report.total
    ++ (if report.total = 1 then " error".toList else " errors".toList) = found at hfound
  by_cases hmore : report.shown < report.total
  · rw [if_pos hmore]
    constructor
    · rintro ⟨front, behind, h⟩
      have hbracket : (front ++ [' ']) ++ '(' :: (decimal k ++ ' ' :: ("shown)".toList ++ behind))
          = (found ++ [' ']) ++ '(' :: (decimal report.shown ++ ' ' :: "shown).".toList) := by
        simp only [List.append_assoc] at h ⊢
        exact h
      -- The bracket is there once, and the numeral behind it goes up to the blank.
      have hcut := append_cons_injective_of_once ?_ ?_ hbracket
      · have hnumeral := append_cons_injective (notMem_decimal (by decide))
          (notMem_decimal (by decide)) hcut.2
        rw [decimal_injective hnumeral.1]
        exact ⟨rfl, hmore⟩
      · rw [List.mem_append, not_or]
        exact ⟨hfound, by decide⟩
      · rw [List.mem_append, not_or]
        exact ⟨notMem_decimal (by decide), by decide⟩
    · rintro ⟨rfl, -⟩
      refine ⟨found, ['.'], ?_⟩
      simp only [List.append_assoc]
      rfl
  · rw [if_neg hmore]
    constructor
    · intro h
      have hmem : '(' ∈ found ++ ['.'] := h.subset (by
        rw [List.append_assoc]
        exact List.mem_append_left _ (by decide))
      rw [List.mem_append] at hmem
      exact absurd hmem (not_or.mpr ⟨hfound, by decide⟩)
    · rintro ⟨rfl, h⟩
      exact absurd h hmore

/-! ## The formats -/

/-- The report on a check lists the findings of the check up to its limit, in each format. -/
theorem lists_checkReport {void : List (List Char)} {source : List Char}
    (hne : findings void source ≠ []) (path : List Char) (limit : Option Nat) :
    (checkReport void path source limit).Lists
      (checkReport void path source limit).reported := by
  have hsubset := (checkReport void path source limit).reported_subset
  have hmessage : ∀ finding ∈ (checkReport void path source limit).reported,
      '\n' ∉ finding.message := fun finding hfinding =>
    (unbroken_iff.mp (wellNamed_of_mem_findings (hsubset hfinding)).unbroken_message).1
  have hunclosed : .unclosed [] ∉ findings void source := unclosed_nil_notMem_findings void source
  refine ⟨?_, ?_, pretty_eq_flatMap hne, ?_⟩
  · rw [Report.text_eq hne, splitOn_flatMap_lines]
    refine List.forall_mem_cons.mpr ⟨by decide, fun text htext => ?_⟩
    rcases List.mem_map.mp htext with ⟨finding, hfinding, rfl⟩
    exact hmessage finding hfinding
  · refine ⟨_, _, rfl, fun hsize => readJson_indented ?_, ?_, rfl, ?_, ?_⟩
    · -- A source of a legible size has no more findings, and no higher line numbers, than bytes.
      refine legible_report (by decide) ?_ fun finding hfinding line hline => ?_
      · exact Nat.le_trans (length_findings_le void source) hsize
      · exact Nat.le_trans (line?_le_byteLength hfinding hline) hsize
    · -- What is read back is what is reported, entry by entry.
      rw [ofJson?_report hunclosed, length_reported, reported_eq_take]
      rfl
    · rw [List.map_map]
      exact List.map_congr_left fun finding _ => finding.code_entry
    · rw [List.map_map]
      exact List.map_congr_left fun finding _ => finding.message_entry
  · intro finding hfinding
    refine Finding.shows_diagnostic (hmessage finding hfinding) ?_ _ _
    rintro rfl
    exact hunclosed (hsubset hfinding)

/-- The formats and the limits of a report agree. A report on findings lists the first of them,
    as many as its limit allows, and it lists the same in each format. A higher limit adds to
    the end of the text and of the pictures and has no effect on the total. The summary gives the
    number of the findings that are shown just if there are more. Where tags are left open, those
    are named that are on the stack in the end, the one opened first before the others. -/
theorem formats_agree (void : List (List Char)) (path source : List Char)
    (hne : findings void source ≠ []) {limit other : Option Nat} (hle : LimitLe limit other) :
    let report := checkReport void path source limit
    let more := checkReport void path source other
    report.Lists ((findings void source).take report.shown) ∧
      bytesOf report.text <+: bytesOf more.text ∧
      (∀ coloured, bytesOf (report.pretty coloured) <+: bytesOf (more.pretty coloured)) ∧
      report.total = more.total ∧
      (∀ k, MentionsShown report.summary k ↔ k = report.shown ∧ k < report.total) ∧
      ∀ tags, .unclosed tags ∈ findings void source →
        tags = (walk [] (nestingTags void source)).2.reverse := by
  intro report more
  have hfirst : report.reported <+: more.reported := reported_prefix void path source hle
  refine ⟨?_, ?_, fun coloured => ?_, rfl, mentionsShown_summary report, fun tags htags => ?_⟩
  · have hlists : report.Lists report.reported := lists_checkReport hne path limit
    rwa [reported_eq_take] at hlists
  · rw [Report.text_eq hne, Report.text_eq hne]
    have hlines := (hfirst.map Finding.message).flatMap (· ++ ['\n'])
    exact bytesOf_prefix ((List.prefix_append_right_inj (foundErrorsText ++ ['\n'])).mpr hlines)
  · rw [pretty_eq_flatMap hne, pretty_eq_flatMap hne]
    exact bytesOf_prefix ((hfirst.map _).flatMap _)
  · rcases mem_findings_cases htags with hfound | hlast
    · -- On the way no tags are said to be unclosed.
      exact absurd hfound (unclosed_notMem_found _ _ _)
    · exact Finding.unclosed.inj hlast

/-- Three findings of the three kinds. The first two may be shown, or all of them. -/
theorem formats_agree_two_of_three :
    findings [] "</a><b></c><d>".toList
        = [.unexpectedClosing 1 "a".toList ⟨0, 4⟩,
          .mismatchedClosing 1 "c".toList ⟨7, 4⟩ ⟨"b".toList, ⟨4, 3⟩⟩,
          .unclosed [⟨"d".toList, ⟨11, 3⟩⟩]] ∧
      LimitLe (some 2) none ∧
      (checkReport [] "page".toList "</a><b></c><d>".toList (some 2)).Lists
        [.unexpectedClosing 1 "a".toList ⟨0, 4⟩,
          .mismatchedClosing 1 "c".toList ⟨7, 4⟩ ⟨"b".toList, ⟨4, 3⟩⟩] ∧
      MentionsShown (checkReport [] "page".toList "</a><b></c><d>".toList (some 2)).summary 2 ∧
      ¬ MentionsShown (checkReport [] "page".toList "</a><b></c><d>".toList (some 2)).summary 3 := by
  have hfindings : findings [] "</a><b></c><d>".toList
      = [.unexpectedClosing 1 "a".toList ⟨0, 4⟩,
        .mismatchedClosing 1 "c".toList ⟨7, 4⟩ ⟨"b".toList, ⟨4, 3⟩⟩,
        .unclosed [⟨"d".toList, ⟨11, 3⟩⟩]] := by decide +kernel
  have hshown : (checkReport [] "page".toList "</a><b></c><d>".toList (some 2)).shown = 2 := by
    decide +kernel
  have htotal : (checkReport [] "page".toList "</a><b></c><d>".toList (some 2)).total = 3 := by
    decide +kernel
  have hle : LimitLe (some 2) none := trivial
  rcases formats_agree [] "page".toList "</a><b></c><d>".toList
    (hfindings ▸ List.cons_ne_nil _ _) hle with ⟨hlists, -, -, -, hsummary, -⟩
  rw [hshown, hfindings] at hlists
  rw [hshown, htotal] at hsummary
  exact ⟨hfindings, hle, hlists, (hsummary 2).mpr (by decide), fun h =>
    absurd ((hsummary 3).mp h) (by decide)⟩

end TagNesting
