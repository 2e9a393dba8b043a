import TagNesting.Proofs.Origin
import TagNesting.Proofs.PlacedTag
import TagNesting.Proofs.Pieces
import TagNesting.Proofs.Places

/-!
# Two Numberings of Lines

The number of a line in a message and the number at the head of the excerpt below it. A
source is checked in lines that end at a line feed, at a carriage return, or at both
together. It is shown in lines that end at line feeds only. The first number counts the
carriage returns that stand alone before the closing tag and the second one does not, and
that is all in which they differ as long as positions reach to the tag.

A tag past the largest position has a span that ends there, and then the line at the head
of the excerpt is the one at the largest position.

## Main definitions

* `loneReturns`: The carriage returns of a text that no line feed follows.
* `lineEnds`: The line ends of a text.
* `StandsAt`: Where a tag stands in its source.

## Theorems

* `lineEnds_joined_append`: As many lines stand before a line as line ends do.
* `exists_standsAt`: Every tag of a source stands somewhere in it, however long it is.
* `StandsAt.place_eq`: A callout for a tag is one mark, on the line that shows the tag.
* `origin_line_eq_iff`: The two numbers of a closing tag, and when they agree.
* `origin_line_ne_number`: They can differ.
-/

namespace TagNesting

/-- The number of carriage returns in a text that no line feed follows. -/
def loneReturns : List Char → Nat
  | [] => 0
  | '\r' :: '\n' :: rest => loneReturns rest
  | c :: rest => loneReturns rest + if c = '\r' then 1 else 0

/-- The number of line ends in a text, a line feed counting for the carriage return before it. -/
def lineEnds (text : List Char) : Nat := text.count '\n' + loneReturns text

/-- Where a tag stands in its source, and what its line and its span say about it. -/
structure StandsAt (source : List Char) (placed : PlacedTag) (before stretch : List Char) :
    Prop where
  /-- The tag is a part of the source, comments inside it included. -/
  cut : ∃ after, source = before ++ stretch ++ after
  /-- It is on one line. -/
  unbroken : Unbroken stretch
  /-- It begins with a `<`. -/
  head?_eq : stretch.head? = some '<'
  /-- Its line has as many lines before it as there are line ends. -/
  line_eq : placed.line = 1 + lineEnds before
  /-- Its span begins where it does, if a position reaches that far. -/
  start_eq : placed.tag.span.start.toNat = min (byteLength before) maxPosition
  /-- Its span ends where it does, if a position reaches that far. -/
  stop_eq : placed.tag.span.stop.toNat = min (byteLength (before ++ stretch)) maxPosition

theorem loneReturns_cons {c : Char} {rest : List Char}
    (hpair : c = '\r' → rest.head? ≠ some '\n') :
    loneReturns (c :: rest) = loneReturns rest + if c = '\r' then 1 else 0 := by
  rw [loneReturns]
  rintro more rfl rfl
  exact hpair rfl rfl

theorem lineEnds_unbroken_append {text : List Char} (h : Unbroken text) (rest : List Char) :
    lineEnds (text ++ rest) = lineEnds rest := by
  induction text with
  | nil => rfl
  | cons c text ih =>
      rw [unbroken_cons] at h
      have hreturn : c ≠ '\r' := by
        rintro rfl
        exact absurd h.1 (by decide)
      have hfeed : c ≠ '\n' := by
        rintro rfl
        exact absurd h.1 (by decide)
      rw [← ih h.2, List.cons_append, lineEnds, List.count_cons_of_ne hfeed,
        loneReturns_cons fun hc => absurd hc hreturn, if_neg hreturn]
      rfl

theorem lineEnds_terminator_append {terminator rest : List Char}
    (hterminator : IsTerminator terminator)
    (hseam : terminator = ['\r'] → rest.head? ≠ some '\n') :
    lineEnds (terminator ++ rest) = 1 + lineEnds rest := by
  rcases hterminator with rfl | rfl | rfl
  · change ('\n' :: rest).count '\n' + loneReturns ('\n' :: rest) = _
    rw [List.count_cons_self, loneReturns_cons fun h => absurd h (by decide), lineEnds]
    simp only [Char.reduceEq, if_false]
    omega
  · change ('\r' :: '\n' :: rest).count '\n' + loneReturns ('\r' :: '\n' :: rest) = _
    rw [List.count_cons_of_ne (by decide), List.count_cons_self, loneReturns, lineEnds]
    omega
  · change ('\r' :: rest).count '\n' + loneReturns ('\r' :: rest) = _
    rw [List.count_cons_of_ne (by decide), loneReturns_cons fun _ => hseam rfl, lineEnds]
    simp only [if_true]
    omega

-- As many lines stand before a part of a line as line ends do.
theorem lineEnds_joined_append {front rest : List (List Char × List Char)}
    {text terminator part : List Char} (h : WellCut (front ++ (text, terminator) :: rest))
    (hpart : part <+: text) : lineEnds (joined front ++ part) = front.length := by
  induction front with
  | nil =>
      have hunbroken : Unbroken part := fun c hc =>
        h.unbroken List.mem_cons_self c (hpart.subset hc)
      have happend := lineEnds_unbroken_append hunbroken []
      rwa [List.append_nil] at happend
  | cons piece front ih =>
      rw [List.cons_append] at h
      generalize hmore : front ++ (text, terminator) :: rest = more at h
      cases h with
      | last => exact absurd hmore (List.append_ne_nil_of_right_ne_nil _ (List.cons_ne_nil _ _))
      | @cons text' terminator' _ htext hterminator hseam hcut =>
          subst hmore
          -- A return at the end of this line stands alone: the next line begins with no line feed.
          have hprefix : joined front ++ part
              <+: joined (front ++ (text, terminator) :: rest) := by
            rw [joined_append, joined_cons, List.append_assoc]
            exact (List.prefix_append_right_inj _).mpr (hpart.trans (List.prefix_append _ _))
          rw [joined_cons, List.append_assoc, List.append_assoc, lineEnds_unbroken_append htext,
            lineEnds_terminator_append hterminator
              (fun hcr => head?_ne_of_prefix hprefix (hseam hcr)),
            ih hcut, List.length_cons, Nat.add_comm]

/-- Every tag of a source stands somewhere in it, however long the source is. -/
theorem exists_standsAt {source : List Char} {placed : PlacedTag}
    (h : placed ∈ sourceTags source) :
    ∃ before stretch, StandsAt source placed before stretch := by
  rcases List.mem_flatMap.mp h with ⟨line, hline, hplaced⟩
  rw [SourceLine.tags_eq_map] at hplaced
  rcases List.mem_map.mp hplaced with ⟨tag, htag, rfl⟩
  rcases exists_slice_of_mem_foundTags htag with ⟨front, slice, back, htext, hhead, _, hrange, _⟩
  rcases exists_pieces_of_mem_sourceLines hline with
    ⟨pieces, terminator, rest, hpieces, hnumber, hoffset⟩
  have hcut := wellCut_splitLines source
  rw [hpieces] at hcut
  have hsource : source = joined pieces ++ line.text ++ (terminator ++ joined rest) := by
    rw [← joined_splitLines source, hpieces, joined_append, joined_cons]
    simp only [List.append_assoc]
  -- Before the tag stand the lines before its line, and what its line has in front of it.
  have hfirst : (line.range tag).1 = byteLength front := congrArg Prod.fst hrange
  have hlast : (line.range tag).2 = byteLength (front ++ slice) := congrArg Prod.snd hrange
  refine ⟨joined pieces ++ front, slice, ⟨back ++ (terminator ++ joined rest), ?_⟩, ?_, hhead,
    ?_, ?_, ?_⟩
  · rw [hsource, htext]
    simp only [List.append_assoc]
  · intro c hc
    refine unbroken_of_mem_sourceLines hline c ?_
    rw [htext]
    exact List.mem_append_left _ (List.mem_append_right _ hc)
  · have hpart : front <+: line.text := by
      rw [htext, List.append_assoc]
      exact List.prefix_append _ _
    rw [lineEnds_joined_append hcut hpart, Nat.add_comm, ← hnumber]
    rfl
  · change ((Span.ofBounds (line.range tag).1 (line.range tag).2).shift line.offset).start.toNat = _
    rw [Span.start_shift, Span.start_ofBounds, hfirst, byteLength_append, hoffset]
    omega
  · change ((Span.ofBounds (line.range tag).1 (line.range tag).2).shift line.offset).stop.toNat = _
    rw [Span.stop_shift, Span.stop_ofBounds, hfirst, hlast, hoffset]
    simp only [byteLength_append]
    omega

/-- A callout for a tag is one mark. The line it is on has as many lines before it as there are
    line feeds before the tag, or before the largest position. -/
theorem StandsAt.place_eq {source before stretch : List Char} {placed : PlacedTag}
    (h : StandsAt source placed before stretch) {callout : Callout}
    (hspan : callout.span = placed.tag.span) :
    ∃ mark, callout.place (shownLines source) (byteLength source) = .within mark ∧
      mark.isPrimary = callout.isPrimary ∧
      mark.start.line = 1 + (uptoByte maxPosition before).count '\n' ∧
      ∃ line ∈ shownLines source, line.number = mark.start.line := by
  rcases h.cut with ⟨after, hsource⟩
  have hne : stretch ≠ [] := by
    rintro rfl
    exact absurd h.head?_eq (by decide)
  have hfeed : '\n' ∉ stretch := fun hmem => absurd (h.unbroken _ hmem) (by decide)
  have hsize : byteLength before < byteLength source := by
    rcases List.exists_cons_of_ne_nil hne with ⟨c, rest, rfl⟩
    have := c.utf8Size_pos
    rw [hsource, byteLength_append, byteLength_append, byteLength_cons]
    omega
  have hstretch : byteLength (before ++ stretch) ≤ byteLength source := by
    rw [hsource, byteLength_append _ after]
    exact Nat.le_add_right _ _
  have hbounds : callout.span.clampedTo (byteLength source)
      = (min (byteLength before) maxPosition, min (byteLength (before ++ stretch)) maxPosition) := by
    rw [hspan, Span.clampedTo, h.start_eq, h.stop_eq, Prod.mk.injEq]
    omega
  -- The bytes of both ends are on the line that shows the tag, or both are the largest position.
  have hnumber : ∀ byte, min (byteLength before) maxPosition ≤ byte →
      byte ≤ min (byteLength (before ++ stretch)) maxPosition →
      (lineAt (shownLines source) byte).number
        = 1 + (uptoByte maxPosition before).count '\n' := by
    intro byte hfirst hlast
    by_cases hreach : byteLength before ≤ maxPosition
    · rw [hsource, number_lineAt_of_notMem hne hfeed (by omega) (by omega), uptoByte_of_le hreach]
    · have hbyte : byte = maxPosition := by omega
      rw [hbyte, number_lineAt_of_lt (by omega), hsource, List.append_assoc,
        uptoByte_append_of_ge (by omega)]
  have hle : byteLength before ≤ byteLength (before ++ stretch) := by
    rw [byteLength_append]
    exact Nat.le_add_right _ _
  have hstart := hnumber _ (Nat.le_refl _) (by omega)
  have hstop := hnumber (min (byteLength (before ++ stretch)) maxPosition) (by omega)
    (Nat.le_refl _)
  have hsame : (lineAt (shownLines source) (callout.span.clampedTo (byteLength source)).1).number
      = (lineAt (shownLines source) (callout.span.clampedTo (byteLength source)).2).number := by
    rw [hbounds, hstart, hstop]
  rcases place_eq_within hsame with ⟨stop, hplace⟩
  refine ⟨_, hplace, rfl, ?_, _, lineAt_mem (shownLines_ne_nil source) _, rfl⟩
  rw [hbounds]
  exact hstart

/-- A finding on a closing tag points at the tag, and beside it only at other tags. -/
theorem exists_closing {void : List (List Char)} {source : List Char} {finding : Finding}
    {number : Nat} (h : finding ∈ findings void source) (hline : finding.line? = some number) :
    ∃ placed ∈ sourceTags source, placed.line = number ∧
      finding.primarySpan? = some placed.tag.span ∧
      ∃ label others, finding.callouts = ⟨placed.tag.span, label, true⟩ :: others ∧
        ∀ callout ∈ others, callout.isPrimary = false ∧
          ∃ other ∈ sourceTags source, callout.span = other.tag.span := by
  rcases mem_findings_cases h with hfound | rfl
  · rcases exists_step_of_mem_found hfound with ⟨before, placed, after, htags, hstep⟩
    have hmem : placed ∈ nestingTags void source := by
      rw [htags]
      exact List.mem_append_right _ List.mem_cons_self
    refine ⟨placed, (List.mem_filter.mp hmem).1, ?_⟩
    rcases finding?_stepAt_cases hstep with ⟨-, rfl⟩ | ⟨top, rest, -, -, rfl⟩
    · refine ⟨Option.some.inj hline, rfl, _, [], rfl, fun callout hcallout => ?_⟩
      exact absurd hcallout List.not_mem_nil
    · -- The other place is that of the tag on top, which is one of the source as well.
      refine ⟨Option.some.inj hline, rfl, _, [_], rfl, fun callout hcallout => ?_⟩
      rcases exists_mem_nestingTags h (List.mem_cons_of_mem _ List.mem_cons_self)
        with ⟨other, hother, hopened⟩
      rw [List.mem_singleton] at hcallout
      rw [hcallout]
      refine ⟨rfl, other, (List.mem_filter.mp hother).1, ?_⟩
      rw [← hopened]
      rfl
  · cases hline

-- Callouts for tags are single marks, and no mark is primary when no callout is.
theorem exists_marks {source : List Char} {callouts : List Callout}
    (h : ∀ callout ∈ callouts, callout.isPrimary = false ∧
      ∃ other ∈ sourceTags source, callout.span = other.tag.span) :
    ∃ marks : List Mark,
      callouts.map (Callout.place (shownLines source) (byteLength source))
        = marks.map Placed.within ∧
      ∀ mark ∈ marks, mark.isPrimary = false := by
  induction callouts with
  | nil => exact ⟨[], rfl, fun mark hmark => absurd hmark List.not_mem_nil⟩
  | cons callout callouts ih =>
      rcases ih fun other hother => h other (List.mem_cons_of_mem _ hother) with
        ⟨marks, hmarks, hnone⟩
      rcases h callout List.mem_cons_self with ⟨hprimary, other, hother, hspan⟩
      rcases exists_standsAt hother with ⟨before, stretch, hstands⟩
      rcases hstands.place_eq hspan with ⟨mark, hplace, hmark, _⟩
      refine ⟨mark :: marks, ?_, List.forall_mem_cons.mpr ⟨?_, hnone⟩⟩
      · rw [List.map_cons, List.map_cons, hplace, hmarks]
      · rw [hmark, hprimary]

/-- The two numbers of a closing tag. The one in the message counts all line ends before the tag,
    the one at the head of the excerpt only the line feeds, as far as positions reach. So they
    agree when no carriage return stands alone before the tag, and no line feed out of reach. -/
theorem origin_line_eq_iff (void : List (List Char)) (path source : List Char)
    {finding : Finding} {number : Nat} (hfinding : finding ∈ findings void source)
    (hline : finding.line? = some number) :
    ∃ before after line column, source = before ++ '<' :: after ∧
      finding.primarySpan?.map (·.start.toNat) = some (min (byteLength before) maxPosition) ∧
      number = 1 + before.count '\n' + loneReturns before ∧
      (finding.diagnostic path source).origin? = some (line, column) ∧
      (finding.diagnostic path source).originText
        = path ++ ':' :: decimal line ++ ':' :: decimal column ∧
      line = 1 + (uptoByte maxPosition before).count '\n' ∧
      (line = number ↔ loneReturns before = 0 ∧
        (uptoByte maxPosition before).count '\n' = before.count '\n') := by
  rcases exists_closing hfinding hline with
    ⟨placed, hplaced, hnumber, hprimary, label, others, hcallouts, hothers⟩
  rcases exists_standsAt hplaced with ⟨before, stretch, hstands⟩
  rcases hstands.place_eq (rfl : (⟨placed.tag.span, label, true⟩ : Callout).span = _) with
    ⟨mark, hplace, hmark, hmarkLine, hshown⟩
  rcases exists_marks hothers with ⟨marks, hmarks, hnone⟩
  rcases hstands.cut with ⟨after, hsource⟩
  rcases List.head?_eq_some_iff.mp hstands.head?_eq with ⟨rest, hrest⟩
  have hlineEnds := hstands.line_eq
  rw [hnumber, lineEnds] at hlineEnds
  -- The mark of the closing tag is the one primary mark of the excerpt.
  have horigin : (finding.diagnostic path source).origin?
      = some (mark.start.line, mark.start.char + 1) := by
    have hmarksAll : finding.callouts.map
          (Callout.place (shownLines source) (byteLength source))
        = (mark :: marks).map Placed.within := by
      rw [hcallouts, List.map_cons, List.map_cons, hplace, hmarks]
    refine origin?_eq hmarksAll List.mem_cons_self hmark ?_ hshown
    · intro other hother hotherPrimary
      rcases List.mem_cons.mp hother with rfl | hother
      · rfl
      · rw [hnone other hother] at hotherPrimary
        exact absurd hotherPrimary Bool.false_ne_true
  have hcount : (uptoByte maxPosition before).count '\n' ≤ before.count '\n' :=
    (uptoByte_isPrefix _ _).sublist.count_le _
  refine ⟨before, rest ++ after, mark.start.line, mark.start.char + 1, ?_, ?_, ?_, horigin, ?_,
    hmarkLine, ?_⟩
  · rw [hsource, hrest, List.append_assoc, List.cons_append]
  · rw [hprimary, Option.map_some, hstands.start_eq]
  · omega
  · rw [Diagnostic.originText, horigin]
    rfl
  · omega

/-- A closing tag behind a carriage return that stands alone. -/
theorem origin_line_eq_iff_behind_lone_return :
    .unexpectedClosing 2 "b".toList ⟨2, 4⟩ ∈ findings [] "a\r</b>".toList ∧
      (Finding.unexpectedClosing 2 "b".toList ⟨2, 4⟩).line? = some 2 ∧
      ∃ before after line column, "a\r</b>".toList = before ++ '<' :: after ∧
        2 = 1 + before.count '\n' + loneReturns before ∧
        ((Finding.unexpectedClosing 2 "b".toList ⟨2, 4⟩).diagnostic "page".toList
          "a\r</b>".toList).origin? = some (line, column) ∧
        (line = 2 ↔ loneReturns before = 0 ∧
          (uptoByte maxPosition before).count '\n' = before.count '\n') := by
  have hfinding : .unexpectedClosing 2 "b".toList ⟨2, 4⟩ ∈ findings [] "a\r</b>".toList := by
    decide
  rcases origin_line_eq_iff [] "page".toList "a\r</b>".toList hfinding rfl with
    ⟨before, after, line, column, hsource, _, hnumber, horigin, _, _, hiff⟩
  exact ⟨hfinding, rfl, before, after, line, column, hsource, hnumber, horigin, hiff⟩

/-- The two numbers can differ: this tag is on line two in its message and on line one at the head
    of its excerpt. -/
theorem origin_line_ne_number :
    .unexpectedClosing 2 "b".toList ⟨2, 4⟩ ∈ findings [] "a\r</b>".toList ∧
      (Finding.unexpectedClosing 2 "b".toList ⟨2, 4⟩).message
        = "Line 2: Unexpected closing tag </b>".toList ∧
      ((Finding.unexpectedClosing 2 "b".toList ⟨2, 4⟩).diagnostic "page".toList
        "a\r</b>".toList).originText = "page:1:3".toList := by
  decide +kernel

end TagNesting
