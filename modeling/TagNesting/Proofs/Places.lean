import Mathlib.Data.List.Basic
import TagNesting.Proofs.Walk

/-!
# Places in Findings

Which tags the findings of a check name, and in which order. A finding names nothing but
tags of the source: a closing tag as it comes up, and opening tags that have been on the
stack. The stack is always a part of the tags so far, in their order, so whatever holds
between each two tags of a source holds between a tag and the one it closes, and between
those that are left open.

## Main definitions

* `Finding.places`: The tags that a finding names.
* `Finding.closingSpan?`: The place of the closing tag of a finding.

## Theorems

* `stepAt_sublist`, `walk_sublist`: The stack is a part of the tags so far.
* `stepAt_forall`, `walk_forall`: What holds of tags that open holds of the stack.
* `mem_of_mem_places`: A walk names only tags that were open or that it goes along.
* `exists_step_of_mem_found`: A finding of a walk comes up at one of its tags.
* `filterMap_found_sublist`, `closingSpans_sublist`: Closing tags are reported in their order.
* `pairwise_of_mismatched`: A tag and the one it closes stand as any two tags do.
* `exists_mem_nestingTags`: A check names tags of its source only.
* `unclosed_sublist`: The tags left open are listed in their order.
-/

namespace TagNesting

/-- The tags that a finding names, its closing tag first, each with its place. -/
def Finding.places : Finding → List OpenTag
  | unexpectedClosing _ name span => [⟨name, span⟩]
  | mismatchedClosing _ name span expected => [⟨name, span⟩, expected]
  | unclosed tags => tags

/-- The place of a finding's closing tag, where it has one. It is the place to point at. -/
def Finding.closingSpan? (finding : Finding) : Option Span :=
  finding.line?.bind fun _ => finding.primarySpan?

/-- What is on the stack behind a tag was there before or is the tag. -/
theorem stepAt_sublist (opened : List OpenTag) (placed : PlacedTag) :
    (stepAt opened placed).2.reverse.Sublist (opened.reverse ++ [placed.opened]) := by
  rcases stepAt_cases opened placed with h | ⟨_, h⟩ | ⟨top, rest, rfl, h⟩
  · rw [h, List.reverse_cons]
  · rw [h]
    exact List.nil_sublist _
  · -- The tag on top goes, and the closing tag does not take its place.
    rw [h, List.reverse_cons, List.append_assoc]
    exact List.sublist_append_left _ _

/-- The stack behind a tag and the tags to come are a part of the stack before it, the tag and
    the tags to come. -/
theorem stepAt_append_sublist (opened : List OpenTag) (placed : PlacedTag)
    (rest : List PlacedTag) :
    ((stepAt opened placed).2.reverse ++ rest.map PlacedTag.opened).Sublist
      (opened.reverse ++ (placed :: rest).map PlacedTag.opened) := by
  rw [List.map_cons, List.append_cons]
  exact (stepAt_sublist opened placed).append_right _

theorem walk_sublist (opened : List OpenTag) (tags : List PlacedTag) :
    (walk opened tags).2.reverse.Sublist (opened.reverse ++ tags.map PlacedTag.opened) := by
  induction tags generalizing opened with
  | nil =>
      rw [List.map_nil, List.append_nil]
      exact List.Sublist.refl _
  | cons placed rest ih => exact (ih _).trans (stepAt_append_sublist opened placed rest)

/-- What holds of the open tags holds of them after a tag, if it holds of a tag that opens. -/
theorem stepAt_forall {P : OpenTag → Prop} {opened : List OpenTag} {placed : PlacedTag}
    (hopened : ∀ tag ∈ opened, P tag)
    (hplaced : placed.tag.kind ≠ .closing → P placed.opened) :
    ∀ tag ∈ (stepAt opened placed).2, P tag := by
  by_cases hk : placed.tag.kind = .closing
  · cases opened with
    | nil =>
        rw [stepAt_stray hk]
        exact hopened
    | cons top rest =>
        rw [stepAt_closing hk]
        exact (List.forall_mem_cons.mp hopened).2
  · rw [stepAt_of_ne_closing hk]
    exact List.forall_mem_cons.mpr ⟨hplaced hk, hopened⟩

/-- What holds of the tags that open holds of those that a walk leaves open. -/
theorem walk_forall {P : OpenTag → Prop} {opened : List OpenTag} {tags : List PlacedTag}
    (hopened : ∀ tag ∈ opened, P tag)
    (htags : ∀ placed ∈ tags, placed.tag.kind ≠ .closing → P placed.opened) :
    ∀ tag ∈ (walk opened tags).2, P tag := by
  induction tags generalizing opened with
  | nil => exact hopened
  | cons placed rest ih =>
      rw [List.forall_mem_cons] at htags
      rw [walk_cons]
      exact ih (stepAt_forall hopened htags.1) htags.2

-- The finding at a tag names the tag, and the top of the stack where the two do not agree.
theorem mem_of_mem_stepAt {opened : List OpenTag} {placed : PlacedTag} {finding : Finding}
    (h : finding ∈ (stepAt opened placed).1.finding?.toList) {place : OpenTag}
    (hplace : place ∈ finding.places) : place = placed.opened ∨ place ∈ opened := by
  rw [Option.mem_toList] at h
  rcases finding?_stepAt_cases h with ⟨-, rfl⟩ | ⟨top, rest, rfl, -, rfl⟩
  · rw [Finding.places, List.mem_singleton] at hplace
    exact Or.inl hplace
  · rw [Finding.places, List.mem_pair] at hplace
    rcases hplace with rfl | rfl
    · exact Or.inl rfl
    · exact Or.inr List.mem_cons_self

/-- The findings of a walk name tags that were open or that it goes along. -/
theorem mem_of_mem_places {opened : List OpenTag} {tags : List PlacedTag} {finding : Finding}
    (h : finding ∈ found opened tags) {place : OpenTag} (hplace : place ∈ finding.places) :
    place ∈ opened.reverse ++ tags.map PlacedTag.opened := by
  induction tags generalizing opened with
  | nil => exact absurd h List.not_mem_nil
  | cons placed rest ih =>
      rw [found_cons, List.mem_append] at h
      rcases h with h | h
      · rw [List.mem_append, List.mem_reverse, List.map_cons]
        rcases mem_of_mem_stepAt h hplace with rfl | hmem
        · exact Or.inr List.mem_cons_self
        · exact Or.inl hmem
      · exact (stepAt_append_sublist opened placed rest).subset (ih h)

/-- A finding of a walk comes up at one of its tags, on the stack that the tags before leave. -/
theorem exists_step_of_mem_found {opened : List OpenTag} {tags : List PlacedTag}
    {finding : Finding} (h : finding ∈ found opened tags) :
    ∃ before placed after, tags = before ++ placed :: after ∧
      (stepAt (walk opened before).2 placed).1.finding? = some finding := by
  induction tags generalizing opened with
  | nil => exact absurd h List.not_mem_nil
  | cons placed rest ih =>
      rw [found_cons, List.mem_append, Option.mem_toList] at h
      rcases h with hstep | hrest
      · exact ⟨[], placed, rest, rfl, hstep⟩
      · rcases ih hrest with ⟨before, other, after, rfl, hstep⟩
        exact ⟨placed :: before, other, after, rfl, hstep⟩

/-- What the findings of a walk say of their closing tags, in the order of the tags. Each tag is
    reported once or not at all. -/
theorem filterMap_found_sublist {β : Type} {read : Finding → Option β} {of : PlacedTag → β}
    (hread : ∀ {opened : List OpenTag} {placed : PlacedTag} {finding : Finding},
      (stepAt opened placed).1.finding? = some finding → read finding = some (of placed))
    (opened : List OpenTag) (tags : List PlacedTag) :
    ((found opened tags).filterMap read).Sublist (tags.map of) := by
  induction tags generalizing opened with
  | nil => exact List.Sublist.refl _
  | cons placed rest ih =>
      rw [found_cons, List.filterMap_append, List.map_cons]
      have hstep : ((stepAt opened placed).1.finding?.toList.filterMap read).Sublist
          [of placed] := by
        cases hfinding : (stepAt opened placed).1.finding? with
        | none => exact List.nil_sublist _
        | some finding =>
            rw [Option.toList_some, List.filterMap_cons, hread hfinding]
            exact List.Sublist.refl _
      exact hstep.append (ih _)

/-- The closing tags that a walk reports are a part of its tags, in their order. -/
theorem closingSpans_sublist (opened : List OpenTag) (tags : List PlacedTag) :
    ((found opened tags).filterMap Finding.closingSpan?).Sublist (tags.map (·.tag.span)) :=
  filterMap_found_sublist (fun hstep => by
    rcases finding?_stepAt_cases hstep with ⟨_, rfl⟩ | ⟨_, _, _, _, rfl⟩
    · rfl
    · rfl) opened tags

/-- A relation that holds between what is open and the tags to come, each before the next,
    holds between a tag and the one it closes under another name. -/
theorem pairwise_of_mismatched {R : OpenTag → OpenTag → Prop} {opened : List OpenTag}
    {tags : List PlacedTag} (hpairs : (opened.reverse ++ tags.map PlacedTag.opened).Pairwise R)
    {line : Nat} {name : List Char} {span : Span} {expected : OpenTag}
    (h : .mismatchedClosing line name span expected ∈ found opened tags) :
    R expected ⟨name, span⟩ := by
  induction tags generalizing opened with
  | nil => exact absurd h List.not_mem_nil
  | cons placed rest ih =>
      rw [found_cons, List.mem_append] at h
      rcases h with h | h
      · rw [Option.mem_toList] at h
        rcases finding?_stepAt_cases h with ⟨-, hfinding⟩ | ⟨top, below, rfl, -, hfinding⟩
        · cases hfinding
        · -- The tag closed is on top of the stack and the closing tag is the next to come.
          rw [Finding.mismatchedClosing.injEq] at hfinding
          rcases hfinding with ⟨-, rfl, rfl, rfl⟩
          refine (List.pairwise_append.mp hpairs).2.2 expected ?_ placed.opened ?_
          · exact List.mem_reverse.mpr List.mem_cons_self
          · exact List.mem_cons_self
      · exact ih (hpairs.sublist (stepAt_append_sublist opened placed rest)) h

theorem unclosed_notMem_found (tags : List OpenTag) (opened : List OpenTag)
    (placed : List PlacedTag) : .unclosed tags ∉ found opened placed := by
  intro h
  rcases exists_step_of_mem_found h with ⟨before, first, after, _, hstep⟩
  rcases finding?_stepAt_cases hstep with ⟨-, hfinding⟩ | ⟨_, _, _, -, hfinding⟩
  · cases hfinding
  · cases hfinding

/-- A finding of a check comes up on the walk, or it lists what the walk leaves open. -/
theorem mem_findings_cases {void : List (List Char)} {source : List Char} {finding : Finding}
    (h : finding ∈ findings void source) :
    finding ∈ found [] (nestingTags void source) ∨
      finding = .unclosed (walk [] (nestingTags void source)).2.reverse := by
  rw [findings_eq, List.mem_append, Option.mem_toList] at h
  rcases h with h | h
  · exact Or.inl h
  · refine Or.inr ?_
    cases hleft : (walk [] (nestingTags void source)).2 with
    | nil =>
        rw [hleft] at h
        cases h
    | cons top below =>
        rw [hleft] at h
        exact (Option.some.inj h).symm

theorem exists_mem_nestingTags {void : List (List Char)} {source : List Char}
    {finding : Finding} (h : finding ∈ findings void source) {place : OpenTag}
    (hplace : place ∈ finding.places) :
    ∃ placed ∈ nestingTags void source, placed.opened = place := by
  rw [← List.mem_map]
  rcases mem_findings_cases h with hfound | rfl
  · exact mem_of_mem_places hfound hplace
  · exact (walk_sublist [] _).subset hplace

theorem closingSpans_findings_sublist (void : List (List Char)) (source : List Char) :
    ((findings void source).filterMap Finding.closingSpan?).Sublist
      ((nestingTags void source).map (·.tag.span)) := by
  have hlast : ((unclosedFinding? (walk [] (nestingTags void source)).2).toList.filterMap
      Finding.closingSpan?) = [] := by
    cases (walk [] (nestingTags void source)).2 with
    | nil => rfl
    | cons top below => rfl
  rw [findings_eq, List.filterMap_append, hlast, List.append_nil]
  exact closingSpans_sublist [] _

/-- The tags left open at the end are a part of the tags of the source, in their order. -/
theorem unclosed_sublist {void : List (List Char)} {source : List Char} {tags : List OpenTag}
    (h : .unclosed tags ∈ findings void source) :
    tags.Sublist ((nestingTags void source).map PlacedTag.opened) := by
  rcases mem_findings_cases h with hfound | hlast
  · exact absurd hfound (unclosed_notMem_found _ _ _)
  · rw [Finding.unclosed.inj hlast]
    exact walk_sublist [] _

end TagNesting
