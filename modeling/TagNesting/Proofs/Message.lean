import TagNesting.Proofs.Numeral
import TagNesting.Proofs.Places
import TagNesting.Proofs.TagName
import TagNesting.Report

/-!
# Messages

What can be read back from the messages of a check. Names stand in them without any escape,
so it all rests on what the names of a source can hold. A name holds no line end: a message
is one line, and a text report has one line for each finding. The name of a closing tag
ends before the first `>` behind it. The names that are listed between quotes are those of
opening tags, which hold no quote.

So the message of a finding says everything about it but where the tags stand: whatever
sources two findings come from, if they have the same message they say the same.

## Main definitions

* `Finding.WellNamed`: A finding whose names are those that tags can have.
* `Finding.SaysSame`: Two findings say the same, each about its own places.

## Theorems

* `quotedList_injective`: A list in quotes is that of one list of names.
* `wellNamed_of_mem_findings`: The findings of a check are well named.
* `WellNamed.unbroken_message`: A message is one line.
* `saysSame_of_message_eq`: A message tells what its finding says.
* `messages_decode`: A text report can be read back.
-/

namespace TagNesting

-- A text is cut by a character it does not hold in one way only.
theorem append_cons_injective {α : Type} [BEq α] [LawfulBEq α] {x : α}
    {front other rest more : List α} (hfront : x ∉ front) (hother : x ∉ other)
    (h : front ++ x :: rest = other ++ x :: more) : front = other ∧ rest = more := by
  have hsplit := congrArg (List.splitOn x) h
  rw [List.splitOn_append_cons_self_of_not_mem hfront,
    List.splitOn_append_cons_self_of_not_mem hother, List.cons.injEq] at hsplit
  rcases hsplit with ⟨rfl, _⟩
  exact ⟨rfl, (List.cons.inj (List.append_cancel_left h)).2⟩

-- Lines that hold no line feed, each ended by one, are told apart again.
theorem splitOn_flatMap_lines {lines : List (List Char)} (h : ∀ line ∈ lines, '\n' ∉ line) :
    (lines.flatMap (· ++ ['\n'])).splitOn '\n' = lines ++ [[]] := by
  induction lines with
  | nil => rfl
  | cons line lines ih =>
      rw [List.forall_mem_cons] at h
      rw [List.flatMap_cons, List.append_assoc, List.singleton_append,
        List.splitOn_append_cons_self_of_not_mem h.1, ih h.2, List.cons_append]

theorem unbroken_decimal (n : Nat) : Unbroken (decimal n) :=
  unbroken_iff.mpr ⟨notMem_decimal (by decide), notMem_decimal (by decide)⟩

-- A text that begins with the number of a line is cut behind the number in one way only.
theorem line_append_injective {m n : Nat} {rest more : List Char}
    (h : "Line ".toList ++ (decimal m ++ ':' :: rest)
      = "Line ".toList ++ (decimal n ++ ':' :: more)) : m = n ∧ rest = more := by
  -- A numeral holds no colon, so the first colon is the one behind it.
  rcases append_cons_injective (notMem_decimal (by decide)) (notMem_decimal (by decide))
    (List.append_cancel_left h) with ⟨hnumeral, hrest⟩
  exact ⟨decimal_injective hnumeral, hrest⟩

namespace Finding

/-- A finding whose names are those that tags can have. -/
def WellNamed : Finding → Prop
  | unexpectedClosing _ name _ => IsClosingName name
  | mismatchedClosing _ name _ expected => IsClosingName name ∧ IsOpeningName expected.name
  | unclosed tags => ∀ tag ∈ tags, IsOpeningName tag.name

/-- Two findings say the same, each about its own places. -/
structure SaysSame (finding other : Finding) : Prop where
  /-- They are of one kind. -/
  kind_eq : finding.kind = other.kind
  /-- Their closing tags are on lines of the same number, or neither has one. -/
  line?_eq : finding.line? = other.line?
  /-- Their closing tags have the same name. -/
  tagName?_eq : finding.tagName? = other.tagName?
  /-- Closing tags of the same name would have been right. -/
  expectedName?_eq : finding.expectedName? = other.expectedName?
  /-- The same names are left open, in the same order. -/
  openNames_eq : finding.openNames = other.openNames

-- Names in quotes: the first name, and a comma before each of the others.
theorem quotedList_cons (name : List Char) (names : List (List Char)) :
    quotedList (name :: names)
      = '[' :: '\'' :: (name ++ '\'' ::
          (names.flatMap (fun next => ',' :: ' ' :: '\'' :: (next ++ ['\''])) ++ [']'])) := by
  simp only [quotedList, List.map_cons]
  have hmore : ∀ first : List Char, [',', ' '].intercalate
        (first :: names.map fun next => '\'' :: next ++ ['\''])
      = first ++ names.flatMap (fun next => ',' :: ' ' :: '\'' :: (next ++ ['\''])) := by
    induction names with
    | nil =>
        intro first
        rw [List.map_nil, List.intercalate_singleton, List.flatMap_nil, List.append_nil]
    | cons next names ih =>
        intro first
        rw [List.map_cons, List.intercalate_cons_cons, ih, List.flatMap_cons]
        simp only [List.append_assoc, List.cons_append, List.nil_append]
  rw [hmore]
  simp only [List.append_assoc, List.cons_append, List.nil_append]

theorem unbroken_quotedList {names : List (List Char)} (h : ∀ name ∈ names, Unbroken name) :
    Unbroken (quotedList names) := by
  cases names with
  | nil => decide
  | cons name names =>
      rw [List.forall_mem_cons] at h
      have hmore : Unbroken
          (names.flatMap fun next => ',' :: ' ' :: '\'' :: (next ++ ['\''])) := by
        intro c hc
        rcases List.mem_flatMap.mp hc with ⟨next, hnext, hc⟩
        have hquoted : Unbroken (',' :: ' ' :: '\'' :: (next ++ ['\''])) := by
          simp only [unbroken_cons, unbroken_append]
          exact ⟨rfl, rfl, rfl, h.2 next hnext, rfl, unbroken_nil⟩
        exact hquoted c hc
      rw [quotedList_cons]
      simp only [unbroken_cons, unbroken_append]
      exact ⟨rfl, rfl, h.1, rfl, hmore, rfl, unbroken_nil⟩

-- Names in quotes can be told apart: a name goes up to the next quote, and what follows it says
-- whether there is another.
theorem flatMap_quoted_injective {names others : List (List Char)}
    (hnames : ∀ name ∈ names, '\'' ∉ name) (hothers : ∀ name ∈ others, '\'' ∉ name)
    (h : names.flatMap (fun next => ',' :: ' ' :: '\'' :: (next ++ ['\'']))
      = others.flatMap fun next => ',' :: ' ' :: '\'' :: (next ++ ['\''])) : names = others := by
  -- Both lists are gone through together, and neither can end before the other does.
  induction names generalizing others with
  | nil =>
      cases others with
      | nil => rfl
      | cons other others => cases h
  | cons name names ih =>
      cases others with
      | nil => cases h
      | cons other others =>
          rw [List.forall_mem_cons] at hnames hothers
          simp only [List.flatMap_cons, List.cons_append, List.append_assoc, List.nil_append,
            List.cons.injEq, true_and] at h
          rcases append_cons_injective hnames.1 hothers.1 h with ⟨rfl, hrest⟩
          rw [ih hnames.2 hothers.2 hrest]

/-- A list in quotes is that of one list of names, as long as no name holds a quote. -/
theorem quotedList_injective {names others : List (List Char)}
    (hnames : ∀ name ∈ names, '\'' ∉ name) (hothers : ∀ name ∈ others, '\'' ∉ name)
    (h : quotedList names = quotedList others) : names = others := by
  have hempty : quotedList [] = ['[', ']'] := rfl
  cases names with
  | nil =>
      cases others with
      | nil => rfl
      | cons other others =>
          rw [quotedList_cons, hempty] at h
          cases h
  | cons name names =>
      cases others with
      | nil =>
          rw [quotedList_cons, hempty] at h
          cases h
      | cons other others =>
          rw [List.forall_mem_cons] at hnames hothers
          rw [quotedList_cons, quotedList_cons, List.cons.injEq, List.cons.injEq] at h
          rcases append_cons_injective hnames.1 hothers.1 h.2.2 with ⟨rfl, hrest⟩
          rw [flatMap_quoted_injective hnames.2 hothers.2 (List.append_cancel_right hrest)]

-- The messages on closing tags begin alike, so they are cut behind the number.
theorem message_unexpectedClosing (line : Nat) (name : List Char) (span : Span) :
    (unexpectedClosing line name span).message
      = "Line ".toList ++ (decimal line ++ ':' ::
          (" Unexpected closing tag </".toList ++ (name ++ '>' :: []))) := by
  have hcolon : ": Unexpected closing tag </".toList
      = ':' :: " Unexpected closing tag </".toList := by decide +kernel
  have hmessage : (unexpectedClosing line name span).message
      = "Line ".toList ++ decimal line ++ ": Unexpected closing tag </".toList ++ name ++ ['>'] :=
    rfl
  rw [hmessage, hcolon]
  simp only [List.append_assoc, List.cons_append]

theorem message_mismatchedClosing (line : Nat) (name : List Char) (span : Span)
    (expected : OpenTag) :
    (mismatchedClosing line name span expected).message
      = "Line ".toList ++ (decimal line ++ ':' ::
          (" Mismatched closing tag </".toList ++ (name ++ '>' ::
            (". Expected closing for <".toList ++ (expected.name ++ ['>']))))) := by
  have hcolon : ": Mismatched closing tag </".toList
      = ':' :: " Mismatched closing tag </".toList := by decide +kernel
  have hend : ">. Expected closing for <".toList
      = '>' :: ". Expected closing for <".toList := by decide +kernel
  have hmessage : (mismatchedClosing line name span expected).message
      = "Line ".toList ++ decimal line ++ ": Mismatched closing tag </".toList ++ name ++
        ">. Expected closing for <".toList ++ expected.name ++ ['>'] := rfl
  rw [hmessage, hcolon, hend]
  simp only [List.append_assoc, List.cons_append]

theorem message_unclosed (tags : List OpenTag) :
    (unclosed tags).message
      = "Unclosed tags at end of file: ".toList ++ quotedList (tags.map OpenTag.name) := rfl

/-- A message is one line. -/
theorem WellNamed.unbroken_message {finding : Finding} (h : finding.WellNamed) :
    Unbroken finding.message := by
  cases finding with
  | unexpectedClosing line name span =>
      rw [message_unexpectedClosing]
      simp only [unbroken_append, unbroken_cons]
      exact ⟨by decide +kernel, unbroken_decimal line, rfl, by decide +kernel, h.2, rfl,
        unbroken_nil⟩
  | mismatchedClosing line name span expected =>
      rw [message_mismatchedClosing]
      simp only [unbroken_append, unbroken_cons]
      exact ⟨by decide +kernel, unbroken_decimal line, rfl, by decide +kernel, h.1.2, rfl,
        by decide +kernel, h.2.unbroken, rfl, unbroken_nil⟩
  | unclosed tags =>
      rw [message_unclosed]
      refine unbroken_append.mpr ⟨by decide +kernel, unbroken_quotedList fun name hname => ?_⟩
      rcases List.mem_map.mp hname with ⟨tag, htag, rfl⟩
      exact (h tag htag).unbroken

theorem message_unexpectedClosing_ne {line number : Nat} {name other : List Char}
    {span span' : Span} {expected : OpenTag} :
    (unexpectedClosing line name span).message
      ≠ (mismatchedClosing number other span' expected).message := by
  rw [message_unexpectedClosing, message_mismatchedClosing]
  intro h
  rcases line_append_injective h with ⟨_, hrest⟩
  -- Behind the number and a blank, the two go on with different letters.
  have hletter : 'U' = 'M' := Option.some.inj (congrArg (·[1]?) hrest)
  exact absurd hletter (by decide)

-- A message on a closing tag begins with another letter than one on tags left open.
theorem message_ne_unclosed {finding : Finding} {line : Nat} {tags : List OpenTag}
    (h : finding.line? = some line) : finding.message ≠ (unclosed tags).message := by
  intro heq
  have hletter : some 'L' = some 'U' := by
    have hhead : finding.message.head? = some 'L' := by
      cases finding with
      | unexpectedClosing => rfl
      | mismatchedClosing => rfl
      | unclosed => cases h
    rw [← hhead, heq]
    rfl
  exact absurd hletter (by decide)

/-- A message tells what its finding says. -/
theorem saysSame_of_message_eq {finding other : Finding} (hfinding : finding.WellNamed)
    (hother : other.WellNamed) (h : finding.message = other.message) :
    finding.SaysSame other := by
  cases finding with
  | unexpectedClosing line name span =>
      cases other with
      | unexpectedClosing number name' span' =>
          rw [message_unexpectedClosing, message_unexpectedClosing] at h
          rcases line_append_injective h with ⟨rfl, hrest⟩
          -- The name goes up to the first `>`.
          rcases append_cons_injective hfinding.1 hother.1 (List.append_cancel_left hrest)
            with ⟨rfl, _⟩
          exact ⟨rfl, rfl, rfl, rfl, rfl⟩
      | mismatchedClosing => exact absurd h message_unexpectedClosing_ne
      | unclosed => exact absurd h (message_ne_unclosed rfl)
  | mismatchedClosing line name span expected =>
      cases other with
      | unexpectedClosing => exact absurd h.symm message_unexpectedClosing_ne
      | mismatchedClosing number name' span' expected' =>
          rw [message_mismatchedClosing, message_mismatchedClosing] at h
          rcases line_append_injective h with ⟨rfl, hrest⟩
          rcases append_cons_injective hfinding.1.1 hother.1.1 (List.append_cancel_left hrest)
            with ⟨rfl, hexpected⟩
          -- What is left is the name of the tag opened last, up to the very end.
          have hname : expected.name = expected'.name :=
            List.append_cancel_right (List.append_cancel_left hexpected)
          exact ⟨rfl, rfl, rfl, congrArg some hname, rfl⟩
      | unclosed => exact absurd h (message_ne_unclosed rfl)
  | unclosed tags =>
      cases other with
      | unexpectedClosing => exact absurd h.symm (message_ne_unclosed rfl)
      | mismatchedClosing => exact absurd h.symm (message_ne_unclosed rfl)
      | unclosed tags' =>
          -- The tags listed were opened, so their names hold no quote.
          have hquote : ∀ {tags : List OpenTag}, (∀ tag ∈ tags, IsOpeningName tag.name) →
              ∀ name ∈ tags.map OpenTag.name, '\'' ∉ name := by
            intro tags htags name hname
            rcases List.mem_map.mp hname with ⟨tag, htag, rfl⟩
            exact (htags tag htag).notMem (by decide)
          refine ⟨rfl, rfl, rfl, rfl, ?_⟩
          exact quotedList_injective (hquote hfinding) (hquote hother)
            (List.append_cancel_left h)

end Finding

-- The tags that a walk along tags of a source leaves open have the names of opening tags.
theorem isOpeningName_of_mem_walk {void : List (List Char)} {source : List Char}
    {tags : List PlacedTag} (htags : tags ⊆ nestingTags void source) :
    ∀ tag ∈ (walk [] tags).2, IsOpeningName tag.name := by
  refine walk_forall (fun tag h => absurd h List.not_mem_nil) fun placed hplaced hkind => ?_
  have hmem := htags hplaced
  rcases kind_of_mem_nestingTags hmem with hopening | hclosing
  · exact isOpeningName_of_mem_sourceTags (List.mem_filter.mp hmem).1 hopening
  · exact absurd hclosing hkind

/-- The findings of a check are well named. -/
theorem wellNamed_of_mem_findings {void : List (List Char)} {source : List Char}
    {finding : Finding} (h : finding ∈ findings void source) : finding.WellNamed := by
  rcases mem_findings_cases h with hfound | rfl
  · rcases exists_step_of_mem_found hfound with ⟨before, placed, after, htags, hstep⟩
    have hplaced : placed ∈ nestingTags void source := by
      rw [htags]
      exact List.mem_append_right _ List.mem_cons_self
    -- The stack comes from the tags before this one, which are tags of the source too.
    have hopened : ∀ tag ∈ (walk [] before).2, IsOpeningName tag.name := by
      have hsubset : before ⊆ nestingTags void source := by
        rw [htags]
        exact List.subset_append_left _ _
      exact isOpeningName_of_mem_walk hsubset
    have hname : IsClosingName placed.tag.name := by
      refine isClosingName_of_mem_sourceTags (List.mem_filter.mp hplaced).1 ?_
      by_contra hkind
      rw [stepAt_of_ne_closing hkind] at hstep
      cases hstep
    rcases finding?_stepAt_cases hstep with ⟨_, rfl⟩ | ⟨top, rest, hstack, _, rfl⟩
    · exact hname
    · exact ⟨hname, hopened top (hstack ▸ List.mem_cons_self)⟩
  · intro tag htag
    exact isOpeningName_of_mem_walk (fun _ => id) tag (List.mem_reverse.mp htag)

/-- A text report that has findings: a heading and their messages, a line for each. -/
theorem Report.text_eq {report : Report} (h : report.findings ≠ []) :
    report.text
      = (foundErrorsText :: report.reported.map Finding.message).flatMap (· ++ ['\n']) := by
  rw [Report.text, if_neg (by rwa [List.isEmpty_iff]), List.flatMap_cons, List.flatMap_map]

theorem Report.reported_subset (report : Report) : report.reported ⊆ report.findings := by
  rw [Report.reported]
  split
  · exact List.take_subset _ _
  · exact fun _ => id

/-- A text report can be read back. A message is one line, so the report has a heading and then a
    line for each finding that is shown, and a message says everything about its finding but
    where the tags stand, whatever source it comes from. -/
theorem messages_decode (void : List (List Char)) (source : List Char) :
    (∀ finding ∈ findings void source, '\n' ∉ finding.message ∧ '\r' ∉ finding.message) ∧
      (findings void source ≠ [] → ∀ (path : List Char) (limit : Option Nat),
        let report : Report := ⟨path, source, findings void source, limit⟩
        report.text.splitOn '\n'
          = foundErrorsText :: report.reported.map Finding.message ++ [[]]) ∧
      ∀ finding ∈ findings void source, ∀ (void' : List (List Char)) (source' : List Char),
        ∀ other ∈ findings void' source', finding.message = other.message →
          finding.SaysSame other := by
  have hline : ∀ finding ∈ findings void source, Unbroken finding.message := fun _ hfinding =>
    (wellNamed_of_mem_findings hfinding).unbroken_message
  refine ⟨fun finding hfinding => unbroken_iff.mp (hline finding hfinding), ?_, ?_⟩
  · intro hne path limit report
    rw [Report.text_eq hne, splitOn_flatMap_lines]
    refine List.forall_mem_cons.mpr ⟨by decide, fun text htext => ?_⟩
    rcases List.mem_map.mp htext with ⟨finding, hfinding, rfl⟩
    exact (unbroken_iff.mp (hline finding (report.reported_subset hfinding))).1
  · intro finding hfinding void' source' other hother h
    exact Finding.saysSame_of_message_eq (wellNamed_of_mem_findings hfinding)
      (wellNamed_of_mem_findings hother) h

/-- A name with a quote in it, in two places. -/
theorem messages_decode_quote :
    (Report.text ⟨"page".toList, "</a 'b'>".toList, findings [] "</a 'b'>".toList, some 1⟩).splitOn
          '\n'
        = [foundErrorsText, "Line 1: Unexpected closing tag </a'b'>".toList, []] ∧
      Finding.SaysSame (.unexpectedClosing 1 "a'b'".toList ⟨0, 8⟩)
        (.unexpectedClosing 1 "a'b'".toList ⟨2, 8⟩) := by
  rcases messages_decode [] "</a 'b'>".toList with ⟨_, htext, hsame⟩
  refine ⟨?_, ?_⟩
  · rw [htext (by decide +kernel) "page".toList (some 1)]
    decide +kernel
  · exact hsame (.unexpectedClosing 1 "a'b'".toList ⟨0, 8⟩) (by decide +kernel) []
      "  </a 'b'>".toList _ (by decide +kernel) rfl

end TagNesting
