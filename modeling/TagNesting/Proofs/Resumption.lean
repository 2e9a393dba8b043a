import TagNesting.Proofs.Pieces
import TagNesting.Proofs.Places

/-!
# Resumption

A check that stops behind some line and goes on from there. All that it has to remember is
which tags are open. What it has reported by then stays as it is, and the lines to come
report what they would have reported anyway.

The same can be seen from outside, by checking a source that is cut off behind the text of
the line. It reports what the whole source reports up to that line, and as unclosed it
lists just the tags that are open there. The cut can take a line away: an empty one, which
has no tags.

## Main definitions

* `lineTags`: The tags of some lines that open or close an element.
* `openAfter`: The tags that are open behind the first lines of a source.
* `closingFindings`: The findings on closing tags.
* `Finding.openTags`: The tags that a finding lists as unclosed.
* `ResumesAfter`: A check can stop behind a line and go on from there.

## Theorems

* `pairwise_number_sourceLines`: Lines are numbered upwards.
* `nestingTags_sourceThrough`: The tags of a source that is cut off.
* `lines_sublist`: Findings come in the order of the lines.
* `progress_eq`: The progress of a check is that of one run along all lines.
* `findings_resume`: A check can stop behind any line and go on from there.
-/

namespace TagNesting

/-- The tags of some lines that open or close an element. -/
def lineTags (void : List (List Char)) (lines : List SourceLine) : List PlacedTag :=
  (lines.flatMap SourceLine.tags).filter (affectsNesting void)

/-- The tags that are open behind the first `count` lines of a source, the one opened last
    first. -/
def openAfter (void : List (List Char)) (source : List Char) (count : Nat) : List OpenTag :=
  (walk [] (lineTags void ((sourceLines source).take count))).2

/-- The findings on closing tags: all but the one on tags left open. -/
def closingFindings (reports : List Finding) : List Finding :=
  reports.filter (·.line?.isSome)

/-- The tags that a finding lists as unclosed. -/
def Finding.openTags : Finding → List OpenTag
  | unclosed tags => tags
  | _ => []

/-- A check can stop behind a line and go on from there: what a check of the source cut off behind
    the line's text has to do with a check of all of it. -/
structure ResumesAfter (void : List (List Char)) (source : List Char) (line : SourceLine) :
    Prop where
  /-- It reports the closing tags that are reported up to the line. -/
  closing_eq : closingFindings (findings void (line.sourceThrough source))
    = (closingFindings (findings void source)).filter (·.line?.any (· ≤ line.number))
  /-- They are the first that are reported. -/
  closing_prefix : closingFindings (findings void (line.sourceThrough source))
    <+: closingFindings (findings void source)
  /-- It lists the tags that are open behind the line, as they were opened. -/
  openTags_eq : (findings void (line.sourceThrough source)).flatMap Finding.openTags
    = (openAfter void source line.number).reverse
  /-- The lines to come report the rest, when these tags are open before them. -/
  findings_eq : findings void source
    = closingFindings (findings void (line.sourceThrough source))
      ++ reported (walk (openAfter void source line.number)
        (lineTags void ((sourceLines source).drop line.number)))

-- Lines have their tags independently of one another.
theorem lineTags_append (void : List (List Char)) (lines more : List SourceLine) :
    lineTags void (lines ++ more) = lineTags void lines ++ lineTags void more := by
  rw [lineTags, List.flatMap_append, List.filter_append]
  rfl

/-- The tags of a source are those of all its lines. -/
theorem nestingTags_eq (void : List (List Char)) (source : List Char) :
    nestingTags void source = lineTags void (sourceLines source) := rfl

-- A tag is placed on the line that it was found on.
theorem line_of_mem_tags {line : SourceLine} {placed : PlacedTag} (h : placed ∈ line.tags) :
    placed.line = line.number := by
  rcases List.mem_map.mp h with ⟨tag, _, rfl⟩
  rfl

-- So the tags of some lines are placed on one of them each.
theorem exists_line_of_mem_lineTags {void : List (List Char)} {lines : List SourceLine}
    {placed : PlacedTag} (h : placed ∈ lineTags void lines) :
    ∃ line ∈ lines, placed.line = line.number := by
  rcases List.mem_flatMap.mp (List.mem_filter.mp h).1 with ⟨line, hline, htags⟩
  exact ⟨line, hline, line_of_mem_tags htags⟩

-- The numbers go up by one from line to line, whatever number the first line has.
theorem pairwise_number_numberLines (number offset : Nat)
    (pieces : List (List Char × List Char)) :
    (numberLines number offset pieces).Pairwise fun line next => line.number < next.number := by
  induction pieces generalizing number offset with
  | nil => exact List.Pairwise.nil
  | cons piece pieces ih =>
      rw [numberLines, List.pairwise_cons]
      refine ⟨fun next hnext => ?_, ih _ _⟩
      rcases exists_pieces_of_mem_numberLines hnext with ⟨front, _, _, _, hnumber, _⟩
      change number < next.number
      omega

/-- Lines are numbered upwards. -/
theorem pairwise_number_sourceLines (source : List Char) :
    (sourceLines source).Pairwise fun line next => line.number < next.number :=
  pairwise_number_numberLines 1 0 (splitLines source)

-- The numbers of the lines up to a line, and of those behind it.
theorem number_of_sourceLines_eq {source : List Char} {before after : List SourceLine}
    {line : SourceLine} (h : sourceLines source = before ++ line :: after) :
    (∀ other ∈ before ++ [line], other.number ≤ line.number) ∧
      ∀ other ∈ after, line.number < other.number := by
  have hpairs := pairwise_number_sourceLines source
  rw [h, List.pairwise_append] at hpairs
  rcases hpairs with ⟨_, hrest, hacross⟩
  refine ⟨fun other hother => ?_, (List.pairwise_cons.mp hrest).1⟩
  rw [List.mem_append, List.mem_singleton] at hother
  rcases hother with hother | rfl
  · exact Nat.le_of_lt (hacross other hother line List.mem_cons_self)
  · exact Nat.le_refl _

-- An empty line has no tags.
theorem tags_of_text_eq_nil {line : SourceLine} (h : line.text = []) : line.tags = [] := by
  rw [SourceLine.tags, h]
  rfl

/-- The tags of a source that is cut off behind the text of a line are those of the lines up to
    there. -/
theorem nestingTags_sourceThrough (void : List (List Char)) {source : List Char}
    {line : SourceLine} (h : line ∈ sourceLines source) :
    nestingTags void (line.sourceThrough source)
      = lineTags void ((sourceLines source).take line.number) := by
  rcases sourceLines_sourceThrough h with ⟨before, after, hlines, hnumber, hthrough⟩
  have htake : (sourceLines source).take line.number = before ++ [line] := by
    rw [hlines, hnumber, List.append_cons, List.take_left']
    rw [List.length_append, List.length_singleton]
  rw [nestingTags_eq, hthrough, htake, lineTags_append, lineTags_append]
  by_cases hnil : line.text = []
  · have hblank : lineTags void [line] = [] := by
      rw [lineTags, List.flatMap_cons, tags_of_text_eq_nil hnil]
      rfl
    rw [if_pos hnil, hblank]
    rfl
  · rw [if_neg hnil]

/-- The findings of a source that is cut off are those on the way to the cut, and then what is open
    there is unclosed. -/
theorem findings_sourceThrough (void : List (List Char)) {source : List Char}
    {line : SourceLine} (h : line ∈ sourceLines source) :
    findings void (line.sourceThrough source)
      = found [] (lineTags void ((sourceLines source).take line.number))
        ++ (unclosedFinding? (openAfter void source line.number)).toList := by
  rw [findings_eq, nestingTags_sourceThrough void h]
  rfl

/-- The progress of a check, which is defined line by line through checks of the source cut off,
    is that of one run along all of its lines. -/
theorem progress_eq (void : List (List Char)) (source : List Char) :
    progress void source = (sourceLines source).map fun line =>
      ⟨line.number, (openAfter void source line.number).reverse,
        found [] (lineTags void ((sourceLines source).take line.number))⟩ := by
  refine List.map_congr_left fun line hline => ?_
  rw [nestingTags_sourceThrough void hline]
  rfl

/-- The lines of findings come in the order of the tags. -/
theorem lines_sublist (opened : List OpenTag) (tags : List PlacedTag) :
    ((found opened tags).filterMap Finding.line?).Sublist (tags.map PlacedTag.line) :=
  filterMap_found_sublist (fun hstep => by
    rcases finding?_stepAt_cases hstep with ⟨_, rfl⟩ | ⟨_, _, _, _, rfl⟩
    · rfl
    · rfl) opened tags

/-- A finding on the way is about the line of the tag at which it comes up. -/
theorem exists_line_of_mem_found {opened : List OpenTag} {tags : List PlacedTag}
    {finding : Finding} (h : finding ∈ found opened tags) :
    ∃ placed ∈ tags, finding.line? = some placed.line := by
  rcases exists_step_of_mem_found h with ⟨before, placed, after, rfl, hstep⟩
  refine ⟨placed, List.mem_append_right _ List.mem_cons_self, ?_⟩
  rcases finding?_stepAt_cases hstep with ⟨_, rfl⟩ | ⟨_, _, _, _, rfl⟩
  · rfl
  · rfl

-- What is said about tags left open says nothing about a line.
theorem line?_of_mem_unclosedFinding? {opened : List OpenTag} {finding : Finding}
    (h : finding ∈ (unclosedFinding? opened).toList) : finding.line? = none := by
  rw [Option.mem_toList] at h
  cases opened with
  | nil => cases h
  | cons top below =>
      rw [← Option.some.inj h]
      rfl

-- The findings on closing tags are those that come up on the way.
theorem closingFindings_append_unclosed (opened left : List OpenTag) (tags : List PlacedTag) :
    closingFindings (found opened tags ++ (unclosedFinding? left).toList)
      = found opened tags := by
  have hfound : (found opened tags).filter (·.line?.isSome) = found opened tags := by
    refine List.filter_eq_self.mpr fun finding hfinding => ?_
    rcases exists_line_of_mem_found hfinding with ⟨placed, _, hline⟩
    rw [hline]
    rfl
  have hlast : (unclosedFinding? left).toList.filter (·.line?.isSome) = [] := by
    refine List.filter_eq_nil_iff.mpr fun finding hfinding => ?_
    rw [line?_of_mem_unclosedFinding? hfinding]
    exact Bool.false_ne_true
  rw [closingFindings, List.filter_append, hfound, hlast, List.append_nil]

-- The tags listed as unclosed are those that the walk leaves open, as they were opened.
theorem openTags_append_unclosed (opened left : List OpenTag) (tags : List PlacedTag) :
    (found opened tags ++ (unclosedFinding? left).toList).flatMap Finding.openTags
      = left.reverse := by
  have hfound : (found opened tags).flatMap Finding.openTags = [] := by
    refine List.flatMap_eq_nil_iff.mpr fun finding hfinding => ?_
    cases finding with
    | unexpectedClosing => rfl
    | mismatchedClosing => rfl
    | unclosed left => exact absurd hfinding (unclosed_notMem_found _ _ _)
  rw [List.flatMap_append, hfound, List.nil_append]
  cases left with
  | nil => rfl
  | cons top below =>
      rw [unclosedFinding?_of_ne_nil (List.cons_ne_nil _ _)]
      exact List.append_nil _

-- The findings of a source on closing tags, those up to a line and those behind it.
theorem found_take_drop (void : List (List Char)) (source : List Char) (count : Nat) :
    found [] (nestingTags void source)
      = found [] (lineTags void ((sourceLines source).take count))
        ++ found (openAfter void source count)
          (lineTags void ((sourceLines source).drop count)) := by
  rw [openAfter, ← found_append, ← lineTags_append, List.take_append_drop, nestingTags_eq]

-- The findings on closing tags up to a line are those of the tags up to there.
theorem filter_found_take (void : List (List Char)) {source : List Char} {line : SourceLine}
    (h : line ∈ sourceLines source) :
    (found [] (nestingTags void source)).filter (·.line?.any (· ≤ line.number))
      = found [] (lineTags void ((sourceLines source).take line.number)) := by
  rcases sourceLines_sourceThrough h with ⟨before, after, hlines, hnumber, _⟩
  rcases number_of_sourceLines_eq hlines with ⟨hupto, hbehind⟩
  have hsplit : sourceLines source = (before ++ [line]) ++ after := by
    rw [hlines, List.append_assoc, List.singleton_append]
  have hlength : (before ++ [line]).length = line.number := by
    rw [hnumber, List.length_append, List.length_singleton]
  rw [found_take_drop void source line.number, List.filter_append, hsplit,
    List.take_left' hlength, List.drop_left' hlength]
  -- A finding has the number of a line that its tag stands on.
  have hkept : ∀ finding ∈ found [] (lineTags void (before ++ [line])),
      finding.line?.any (· ≤ line.number) = true := by
    intro finding hfinding
    rcases exists_line_of_mem_found hfinding with ⟨placed, hplaced, hline⟩
    rcases exists_line_of_mem_lineTags hplaced with ⟨other, hother, hnumber⟩
    rw [hline, Option.any_some, hnumber, decide_eq_true (hupto other hother)]
  have hdropped : ∀ finding ∈ found (openAfter void source line.number) (lineTags void after),
      ¬ finding.line?.any (· ≤ line.number) = true := by
    intro finding hfinding
    rcases exists_line_of_mem_found hfinding with ⟨placed, hplaced, hline⟩
    rcases exists_line_of_mem_lineTags hplaced with ⟨other, hother, hnumber⟩
    rw [hline, Option.any_some, hnumber,
      decide_eq_false (Nat.not_le_of_lt (hbehind other hother))]
    exact Bool.false_ne_true
  rw [List.filter_eq_self.mpr hkept, List.filter_eq_nil_iff.mpr hdropped, List.append_nil]

/-- A check can stop behind any line of a source and go on from there. -/
theorem resumesAfter_of_mem_sourceLines (void : List (List Char)) {source : List Char}
    {line : SourceLine} (h : line ∈ sourceLines source) : ResumesAfter void source line := by
  have hclosing : closingFindings (findings void (line.sourceThrough source))
      = found [] (lineTags void ((sourceLines source).take line.number)) := by
    rw [findings_sourceThrough void h, closingFindings_append_unclosed]
  have hwhole : closingFindings (findings void source) = found [] (nestingTags void source) := by
    rw [findings_eq, closingFindings_append_unclosed]
  refine ⟨?_, ?_, ?_, ?_⟩
  · rw [hclosing, hwhole, filter_found_take void h]
  · rw [hclosing, hwhole, found_take_drop void source line.number]
    exact List.prefix_append _ _
  · rw [findings_sourceThrough void h, openTags_append_unclosed]
  · -- Both walk the same tags, and what is open at the end is open either way.
    rw [hclosing, reported_walk, findings_eq, found_take_drop void source line.number,
      List.append_assoc, openAfter, nestingTags_eq]
    congr 3
    rw [← List.take_append_drop line.number (sourceLines source), lineTags_append, walk_append,
      List.take_append_drop]

/-- The tags of a source come in the order of the lines. -/
theorem pairwise_line_lineTags (void : List (List Char)) (source : List Char) :
    ((lineTags void (sourceLines source)).map PlacedTag.line).Pairwise (· ≤ ·) := by
  refine List.pairwise_map.mpr (List.Pairwise.filter _ (List.pairwise_flatMap.mpr ⟨?_, ?_⟩))
  · -- The tags of one line are all on it.
    intro line _
    refine List.pairwise_of_forall_mem_list fun placed hplaced next hnext => Nat.le_of_eq ?_
    rw [line_of_mem_tags hplaced, line_of_mem_tags hnext]
  · refine (pairwise_number_sourceLines source).imp fun hlt placed hplaced next hnext => ?_
    rw [line_of_mem_tags hplaced, line_of_mem_tags hnext]
    exact Nat.le_of_lt hlt

/-- A check can stop behind any line and go on from there. Its findings come in the order of the
    lines, and the one on unclosed tags comes last or not at all. -/
theorem findings_resume (void : List (List Char)) (source : List Char) :
    (∀ line ∈ sourceLines source, ResumesAfter void source line) ∧
      ((findings void source).filterMap Finding.line?).Pairwise (· ≤ ·) ∧
      ∀ i tags, (findings void source)[i]? = some (.unclosed tags) →
        tags ≠ [] ∧ i + 1 = (findings void source).length := by
  refine ⟨fun line hline => resumesAfter_of_mem_sourceLines void hline, ?_, ?_⟩
  · have hlast : (unclosedFinding? (walk [] (nestingTags void source)).2).toList.filterMap
        Finding.line? = [] :=
      List.filterMap_eq_nil_iff.mpr fun finding hfinding =>
        line?_of_mem_unclosedFinding? hfinding
    rw [findings_eq, List.filterMap_append, hlast, List.append_nil]
    exact (pairwise_line_lineTags void source).sublist (lines_sublist [] _)
  · intro i tags hi
    rw [findings_eq] at hi ⊢
    cases hleft : (walk [] (nestingTags void source)).2 with
    | nil =>
        -- Nothing is open, and on the way no tags are said to be.
        rw [hleft] at hi
        have hmem := List.mem_of_getElem? hi
        rw [unclosedFinding?, Option.toList_none, List.append_nil] at hmem
        exact absurd hmem (unclosed_notMem_found _ _ _)
    | cons top below =>
        rw [hleft, unclosedFinding?_of_ne_nil (List.cons_ne_nil _ _), Option.toList_some] at hi
        rw [unclosedFinding?_of_ne_nil (List.cons_ne_nil _ _), Option.toList_some,
          List.length_append, List.length_singleton]
        -- Up to its last place the list has findings on closing tags only.
        by_cases hlt : i < (found [] (nestingTags void source)).length
        · rw [List.getElem?_append_left hlt] at hi
          exact absurd (List.mem_of_getElem? hi) (unclosed_notMem_found _ _ _)
        · rw [List.getElem?_append_right (Nat.le_of_not_lt hlt)] at hi
          rcases List.getElem?_eq_some_iff.mp hi with ⟨hbound, hget⟩
          rw [List.length_singleton] at hbound
          refine ⟨?_, by omega⟩
          rw [List.getElem_singleton, Finding.unclosed.injEq] at hget
          rw [← hget]
          exact List.reverse_ne_nil_iff.mpr (List.cons_ne_nil _ _)

/-- A check that stops behind an empty line, which the source that is cut off there does not
    have. -/
theorem findings_resume_behind_empty_line :
    (⟨3, 9, []⟩ : SourceLine) ∈ sourceLines "<a>\n</b>\r\r\n<c></d>".toList ∧
      ResumesAfter [] "<a>\n</b>\r\r\n<c></d>".toList ⟨3, 9, []⟩ ∧
      sourceLines ((⟨3, 9, []⟩ : SourceLine).sourceThrough "<a>\n</b>\r\r\n<c></d>".toList)
        = [⟨1, 0, "<a>".toList⟩, ⟨2, 4, "</b>".toList⟩] := by
  have hmem : (⟨3, 9, []⟩ : SourceLine) ∈ sourceLines "<a>\n</b>\r\r\n<c></d>".toList := by
    decide
  exact ⟨hmem, (findings_resume [] _).1 _ hmem, by decide⟩

end TagNesting
