import TagNesting.Diagnostic.Basic
import TagNesting.Proofs.PlacedTag
import TagNesting.Proofs.Places

/-!
# Placement

What a reader finds at the place a finding points at. A span encloses a slice of one line
that begins with a `<` and ends with a `>`, so both of its ends lie between characters and
cutting it off at the end of the source changes nothing. The slice can hold comments,
because a tag is put together from what the comments leave. Without them it is the text of
the tag again.

The spans of a source also follow each other, on one line because found tags do and from
line to line because lines do. A check keeps that order, so the findings inherit it.

## Main definitions

* `SourceLine.withoutComments`: A slice of a line with the line's comments taken out.
* `Encloses`: A span encloses a slice of one line, from a `<` to a `>`.
* `Span.Before`: A span begins and ends before another begins.

## Theorems

* `exists_encloses_of_mem_tags`: The slice that the span of a tag encloses.
* `Encloses.clampedTo`: Such a span lies within the source.
* `pairwise_before_sourceTags`: The spans of a source follow each other.
* `placement_of_findings`: Where the spans of findings stand, and in which order.
-/

namespace TagNesting

/-- A slice of a line, standing at byte `position` of the source, with the block comments that
    were taken from the line taken out of it. -/
def SourceLine.withoutComments (line : SourceLine) (position : Nat) (slice : List Char) :
    List Char :=
  outside (removedRanges (StrippedLine.ofText line.text).runs) (position - line.offset) slice

/-- A span encloses a slice of one line of a source, from a `<` to a `>`. -/
structure Encloses (source : List Char) (line : SourceLine) (span : Span)
    (slice : List Char) : Prop where
  /-- The span begins in the line. -/
  offset_le : line.offset ≤ span.start.toNat
  /-- It ends there too, before the terminator. -/
  stop_le : span.stop.toNat ≤ line.offset + byteLength line.text
  /-- Both of its ends stand between characters of the source, and the slice between them. -/
  cut : ∃ before after, source = before ++ slice ++ after ∧
    span.start.toNat = byteLength before ∧ span.stop.toNat = byteLength (before ++ slice)
  /-- The slice begins with a `<`. -/
  head?_eq : slice.head? = some '<'
  /-- The slice ends with a `>`. -/
  getLast?_eq : slice.getLast? = some '>'

/-- A span begins and ends before another begins. -/
def Span.Before (s t : Span) : Prop :=
  s.start.toNat < t.start.toNat ∧ s.stop.toNat ≤ t.start.toNat

/-- The span of a tag encloses a slice of its line, and that slice less the comments of the line
    is the text of the tag. -/
theorem exists_encloses_of_mem_tags {source : List Char} {line : SourceLine}
    {placed : PlacedTag} (hsize : byteLength source ≤ maxPosition)
    (hline : line ∈ sourceLines source) (h : placed ∈ line.tags) :
    ∃ slice, Encloses source line placed.tag.span slice ∧
      line.withoutComments placed.tag.span.start.toNat slice = placed.tag.text := by
  rw [SourceLine.tags_eq_map] at h
  rcases List.mem_map.mp h with ⟨tag, htag, rfl⟩
  have hend := add_byteLength_le_of_mem_sourceLines hline
  have hbounds := bounds_placed htag (by omega)
  have hle := range_lt_of_mem_foundTags htag
  rcases exists_slice_of_mem_foundTags htag
    with ⟨front, slice, back, htext, hhead, hlast, hrange, houtside⟩
  -- The line has the slice in it and the source has the line in it.
  rcases exists_append_of_mem_sourceLines hline with ⟨before, after, hsource, hoffset⟩
  simp only [SourceLine.range, hrange] at hbounds hle
  refine ⟨slice, ⟨?_, ?_, ⟨before ++ front, back ++ after, ?_, ?_, ?_⟩, hhead, hlast⟩, ?_⟩
  · rw [hbounds.1]
    exact Nat.le_add_left _ _
  · rw [hbounds.2]
    omega
  · rw [hsource, htext]
    simp only [List.append_assoc]
  · rw [hbounds.1, byteLength_append, hoffset, Nat.add_comm]
  · rw [hbounds.2, List.append_assoc, byteLength_append before, hoffset, Nat.add_comm]
  · rw [SourceLine.withoutComments, hbounds.1, Nat.add_sub_cancel, houtside]
    rfl

theorem Encloses.start_lt_stop {source : List Char} {line : SourceLine} {span : Span}
    {slice : List Char} (h : Encloses source line span slice) :
    span.start.toNat < span.stop.toNat := by
  rcases h.cut with ⟨before, after, _, hstart, hstop⟩
  rcases List.head?_eq_some_iff.mp h.head?_eq with ⟨rest, rfl⟩
  rw [hstart, hstop, byteLength_append, byteLength_cons]
  have := ('<' : Char).utf8Size_pos
  omega

/-- A span that encloses a slice lies within the source, so cutting it off at the end of the
    source leaves it as it is. -/
theorem Encloses.clampedTo {source : List Char} {line : SourceLine} {span : Span}
    {slice : List Char} (h : Encloses source line span slice) :
    span.clampedTo (byteLength source) = (span.start.toNat, span.stop.toNat) := by
  have hlt := h.start_lt_stop
  rcases h.cut with ⟨before, after, hsource, _, hstop⟩
  have hle : span.stop.toNat ≤ byteLength source := by
    rw [hstop, hsource, byteLength_append _ after]
    exact Nat.le_add_right _ _
  rw [Span.clampedTo, Nat.min_eq_left hle, Nat.min_eq_left (by omega)]

theorem pairwise_before_tags {line : SourceLine}
    (hrange : line.offset + byteLength line.text ≤ maxPosition) :
    line.tags.Pairwise fun placed next => placed.tag.span.Before next.tag.span := by
  rw [SourceLine.tags_eq_map, List.pairwise_map]
  refine (pairwise_foundTags _).imp_of_mem fun {tag next} htag hnext hle => ?_
  have hbounds := bounds_placed htag hrange
  have hbounds' := bounds_placed hnext hrange
  have hsnd := range_snd_le htag hle
  have hlt := range_lt_of_mem_foundTags htag
  constructor
  · rw [hbounds.1, hbounds'.1]
    omega
  · rw [hbounds.2, hbounds'.1]
    omega

/-- The spans of a source follow each other, on one line as from line to line. -/
theorem pairwise_before_sourceTags {source : List Char}
    (hsize : byteLength source ≤ maxPosition) :
    (sourceTags source).Pairwise
      fun placed next => placed.tag.span.Before next.tag.span := by
  rw [sourceTags, List.pairwise_flatMap]
  constructor
  · -- Within a line.
    intro line hline
    have hend := add_byteLength_le_of_mem_sourceLines hline
    exact pairwise_before_tags (by omega)
  · -- From a line to a later one, which begins behind the end of the first.
    refine (pairwise_sourceLines source).imp_of_mem ?_
    intro line next hline hnext hle placed hplaced later hlater
    rcases exists_encloses_of_mem_tags hsize hline hplaced with ⟨_, hspan, _⟩
    rcases exists_encloses_of_mem_tags hsize hnext hlater with ⟨_, hspan', _⟩
    have hlt := hspan.start_lt_stop
    have hstop := hspan.stop_le
    have hstart := hspan'.offset_le
    exact ⟨by omega, by omega⟩

/-- Every place that a check of a source names is the place of a tag of one of its lines, and the
    span encloses the text of that tag and the comments within it. The spans of the closing
    tags follow each other, a tag comes before the closing tag that was taken for its own, and
    the tags left open come in their order. -/
theorem placement_of_findings (void : List (List Char)) (source : List Char)
    (hsize : byteLength source ≤ maxPosition) :
    (∀ finding ∈ findings void source, ∀ place ∈ finding.places,
      ∃ line ∈ sourceLines source, ∃ placed ∈ line.tags, ∃ slice,
        affectsNesting void placed = true ∧ placed.opened = place ∧
        Encloses source line place.span slice ∧
        line.withoutComments place.span.start.toNat slice = placed.tag.text ∧
        place.span.clampedTo (byteLength source)
          = (place.span.start.toNat, place.span.stop.toNat)) ∧
      ((findings void source).filterMap Finding.closingSpan?).Pairwise Span.Before ∧
      (∀ line name span expected,
        .mismatchedClosing line name span expected ∈ findings void source →
          expected.span.stop.toNat ≤ span.start.toNat) ∧
      ∀ tags, .unclosed tags ∈ findings void source →
        (tags.map OpenTag.span).Pairwise Span.Before := by
  have horder : (nestingTags void source).Pairwise
      fun placed next => placed.tag.span.Before next.tag.span :=
    (pairwise_before_sourceTags hsize).filter _
  have hopened : ((nestingTags void source).map PlacedTag.opened).Pairwise
      fun tag next => tag.span.Before next.span := List.pairwise_map.mpr horder
  refine ⟨?_, ?_, ?_, ?_⟩
  · -- A place is that of a tag, and a tag is one of a line.
    intro finding hfinding place hplace
    rcases exists_mem_nestingTags hfinding hplace with ⟨placed, hplaced, rfl⟩
    rcases List.mem_filter.mp hplaced with ⟨hmem, haffects⟩
    rcases List.mem_flatMap.mp hmem with ⟨line, hline, htags⟩
    rcases exists_encloses_of_mem_tags hsize hline htags with ⟨slice, hspan, htext⟩
    exact ⟨line, hline, placed, htags, slice, haffects, rfl, hspan, htext, hspan.clampedTo⟩
  · exact (List.pairwise_map.mpr horder).sublist (closingSpans_findings_sublist void source)
  · intro line name span expected hfinding
    rcases mem_findings_cases hfinding with hfound | hlast
    · -- A mismatch comes up on the way, and the tag that it expects was opened before.
      exact (pairwise_of_mismatched hopened hfound).2
    · cases hlast
  · intro tags hfinding
    exact List.pairwise_map.mpr (hopened.sublist (unclosed_sublist hfinding))

/-- A tag that a comment cuts in two, behind a character of two bytes and on a line that ends in
    two. -/
theorem placement_of_tag_around_comment :
    byteLength "é<di\x7b/* x */\x7dv>\r\n</p>".toList ≤ maxPosition ∧
      ∃ line ∈ sourceLines "é<di\x7b/* x */\x7dv>\r\n</p>".toList, ∃ placed ∈ line.tags, ∃ slice,
        placed.opened = ⟨"div".toList, ⟨2, 14⟩⟩ ∧
        Encloses "é<di\x7b/* x */\x7dv>\r\n</p>".toList line ⟨2, 14⟩ slice ∧
        line.withoutComments 2 slice = placed.tag.text := by
  have hsize : byteLength "é<di\x7b/* x */\x7dv>\r\n</p>".toList ≤ maxPosition := by decide
  have hfinding : .mismatchedClosing 2 "p".toList ⟨18, 4⟩ ⟨"div".toList, ⟨2, 14⟩⟩
      ∈ findings [] "é<di\x7b/* x */\x7dv>\r\n</p>".toList := by decide
  rcases (placement_of_findings [] _ hsize).1 _ hfinding _
    (List.mem_cons_of_mem _ List.mem_cons_self)
    with ⟨line, hline, placed, hplaced, slice, _, hopened, hspan, htext, _⟩
  exact ⟨hsize, line, hline, placed, hplaced, slice, hopened, hspan, htext⟩

end TagNesting
