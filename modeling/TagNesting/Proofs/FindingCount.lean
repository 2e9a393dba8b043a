import TagNesting.Proofs.Pieces
import TagNesting.Proofs.PlacedTag
import TagNesting.Proofs.Places

/-!
# How Many Findings

A source has no more findings than bytes, and no more lines. Numbers in a report are
therefore no larger than the source that it is about, and whatever can hold a source's size
can hold them.

A tag is at the bottom of every finding. A closing tag has one finding or none, and for all
the tags that are left open there is one finding between them.

## Theorems

* `length_found_add_le`: Findings and open tags together are no more than tags.
* `length_findings_le`: There are no more findings than bytes.
* `line?_le_byteLength`: Nor does a finding stand on a line with a larger number.
-/

namespace TagNesting

/-- Each tag either goes onto the stack or is good for one finding at the most. -/
theorem length_found_add_le (opened : List OpenTag) (tags : List PlacedTag) :
    (found opened tags).length + (walk opened tags).2.length
      ≤ opened.length + tags.length := by
  induction tags generalizing opened with
  | nil =>
      rw [found, walk]
      exact Nat.le_of_eq (Nat.add_comm 0 opened.length)
  | cons placed tags ih =>
      have hrest := ih (stepAt opened placed).2
      -- A step opens a tag and reports nothing, or opens none and reports one at most.
      have hstep : (stepAt opened placed).1.finding?.toList.length
          + (stepAt opened placed).2.length ≤ opened.length + 1 := by
        have hone : (stepAt opened placed).1.finding?.toList.length ≤ 1 :=
          Option.length_toList_le
        rcases stepAt_cases opened placed with hs | ⟨hnil, hs⟩ | ⟨top, rest, hcons, hs⟩
        · rw [hs]
          exact Nat.le_of_eq (Nat.zero_add _)
        · rw [hs] at hone ⊢
          exact Nat.le_trans hone (Nat.le_add_left 1 _)
        · simp only [hs] at hone ⊢
          rw [hcons, List.length_cons]
          omega
      simp only [found_cons, walk_cons, List.length_append, List.length_cons]
      omega

theorem length_findings_le_sourceTags (void : List (List Char)) (source : List Char) :
    (findings void source).length ≤ (sourceTags source).length := by
  have hfound := length_found_add_le [] (nestingTags void source)
  have htags : (nestingTags void source).length ≤ (sourceTags source).length :=
    List.length_filter_le _ _
  rw [findings_eq, List.length_append]
  cases hopen : (walk [] (nestingTags void source)).2 with
  | nil =>
      rw [hopen] at hfound
      simp only [unclosedFinding?, Option.toList_none, List.length_nil] at hfound ⊢
      omega
  | cons top rest =>
      rw [hopen] at hfound
      simp only [unclosedFinding?, Option.toList_some, List.length_cons, List.length_nil]
        at hfound ⊢
      omega

theorem Scans.length_le {position : Nat} {text : List Char} {found : List FoundTag}
    (h : Scans position text found) : found.length ≤ text.length := by
  induction h with
  | done => exact Nat.le_refl 0
  | skip _ _ ih => exact Nat.le_succ_of_le ih
  | @tag _ tag rest _ htag _ ih =>
      -- A tag is not empty, as it has its brackets.
      rcases tagLength?_eq_some htag with ⟨body, _, _, _, hlength⟩
      rw [List.length_cons] at hlength
      rw [List.length_cons, List.length_append]
      omega

theorem Strips.length_le {position : Nat} {text : List Char} {runs : List Run}
    (h : Strips position text runs) : (runs.flatMap Run.text).length ≤ text.length := by
  induction h with
  | done => exact Nat.le_refl 0
  | kept _ _ ih => exact Nat.succ_le_succ ih
  | @comment _ comment rest _ _ _ ih =>
      rw [List.flatMap_cons, List.nil_append, List.length_append]
      omega

theorem length_le_byteLength (text : List Char) : text.length ≤ byteLength text := by
  induction text with
  | nil => exact Nat.le_refl 0
  | cons c text ih =>
      have hsize := c.utf8Size_pos
      rw [List.length_cons, byteLength_cons]
      omega

theorem length_tags_le (line : SourceLine) : line.tags.length ≤ byteLength line.text := by
  have hscans := (scans_foundTags (StrippedLine.ofText line.text).text).length_le
  have hstrips := (strips_ofText line.text).length_le
  rcases exists_append_beforeSlashes ((StrippedLine.ofText line.text).runs.flatMap Run.text)
    with ⟨cut, hcut⟩
  have hslashes : (StrippedLine.ofText line.text).text.length
      ≤ ((StrippedLine.ofText line.text).runs.flatMap Run.text).length := by
    rw [hcut, List.length_append]
    exact Nat.le_add_right _ _
  rw [SourceLine.tags_eq_map, List.length_map]
  exact Nat.le_trans hscans (Nat.le_trans hslashes
    (Nat.le_trans hstrips (length_le_byteLength line.text)))

theorem length_flatMap_tags_le (number offset : Nat) (pieces : List (List Char × List Char)) :
    ((numberLines number offset pieces).flatMap SourceLine.tags).length
      ≤ byteLength (joined pieces) := by
  induction pieces generalizing number offset with
  | nil => exact Nat.le_refl 0
  | cons piece pieces ih =>
      have hline : (SourceLine.tags ⟨number, offset, piece.1⟩).length ≤ byteLength piece.1 :=
        length_tags_le _
      have hrest := ih (number + 1) (offset + byteLength piece.1 + byteLength piece.2)
      rw [numberLines, List.flatMap_cons, List.length_append, joined_cons, byteLength_append,
        byteLength_append]
      omega

/-- A source has no more findings than bytes. -/
theorem length_findings_le (void : List (List Char)) (source : List Char) :
    (findings void source).length ≤ byteLength source := by
  have htags := length_flatMap_tags_le 1 0 (splitLines source)
  rw [joined_splitLines] at htags
  exact Nat.le_trans (length_findings_le_sourceTags void source) htags

-- No piece is empty, for one without a terminator has a text.
theorem WellCut.length_le {pieces : List (List Char × List Char)} (h : WellCut pieces) :
    pieces.length ≤ byteLength (joined pieces) := by
  have hpos : ∀ {text : List Char}, text ≠ [] → 0 < byteLength text := fun hne =>
    Nat.pos_of_ne_zero fun hzero => hne (byteLength_eq_zero hzero)
  induction h with
  | nil => exact Nat.le_refl 0
  | @last text hne _ =>
      have hsize := hpos hne
      simp only [joined_cons, byteLength_append, List.length_singleton]
      omega
  | @cons text terminator more _ hterminator _ _ ih =>
      have hsize := hpos hterminator.ne_nil
      simp only [joined_cons, byteLength_append, List.length_cons]
      omega

/-- The number of a line is no larger than the size of its source. -/
theorem number_le_byteLength {source : List Char} {line : SourceLine}
    (h : line ∈ sourceLines source) : line.number ≤ byteLength source := by
  rcases exists_pieces_of_mem_numberLines h with ⟨front, terminator, rest, hpieces, hnumber, _⟩
  have hlength := (wellCut_splitLines source).length_le
  rw [joined_splitLines, hpieces, List.length_append, List.length_cons] at hlength
  omega

/-- So is the number of the line that a finding has. -/
theorem line?_le_byteLength {void : List (List Char)} {source : List Char} {finding : Finding}
    (h : finding ∈ findings void source) {line : Nat} (hline : finding.line? = some line) :
    line ≤ byteLength source := by
  rcases mem_findings_cases h with hfound | rfl
  · rcases exists_step_of_mem_found hfound with ⟨before, placed, after, htags, hstep⟩
    have hmem : placed ∈ nestingTags void source := by
      rw [htags]
      exact List.mem_append_right _ List.mem_cons_self
    rcases List.mem_flatMap.mp (List.mem_filter.mp hmem).1 with ⟨holder, hholder, hplaced⟩
    have hnumber := number_le_byteLength hholder
    rcases List.mem_map.mp hplaced with ⟨tag, _, rfl⟩
    rcases finding?_stepAt_cases hstep with ⟨_, rfl⟩ | ⟨_, _, _, _, rfl⟩
    · exact Option.some.inj hline ▸ hnumber
    · exact Option.some.inj hline ▸ hnumber
  · cases hline

end TagNesting
