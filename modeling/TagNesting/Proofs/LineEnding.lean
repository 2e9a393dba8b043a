import TagNesting.Proofs.Alike
import TagNesting.Proofs.HiddenText
import TagNesting.Proofs.Placement

/-!
# Line Endings

A source with one terminator in the place of all others, as a file has that came through
another system. Which terminator ends a line is no part of the line, so the lines are the
same, each with its number, and so are the messages of a check. Where things stand is
another matter: every byte behind a terminator of another length has moved. The spans of
the findings have moved with them and still select the same text.

The new terminator can be any of the three. Between two of them there is a line, an empty
one at the least, and no terminator is made longer by what comes behind it: there are line
feeds only if the terminator has one, and then none of them stands behind a carriage
return that is not its own.

## Main definitions

* `withTerminator`: A text with one terminator throughout.
* `ended`: A piece with another terminator.
* `Span.Selects`: A span selects a slice of a source.
* `SameSlice`: Two spans select the same slice, each of its source.

## Theorems

* `splitLines_withTerminator`: The pieces of such a text.
* `selects_placed`: The span of a tag selects the slice it comes from.
* `sourceTags_alike`, `findings_alike`: The tags and the findings of two sources with the same
  lines.
* `findings_withTerminator`: A check of such a text.
-/

namespace TagNesting

/-- A text with the same terminator at the end of every line that has one. -/
def withTerminator (terminator : List Char) : List Char → List Char
  | [] => []
  | '\r' :: '\n' :: rest => terminator ++ withTerminator terminator rest
  | c :: rest =>
      if isLineEnd c then terminator ++ withTerminator terminator rest
      else c :: withTerminator terminator rest

/-- A piece with another terminator, if it has one. -/
def ended (terminator : List Char) (piece : List Char × List Char) : List Char × List Char :=
  (piece.1, if piece.2 = [] then [] else terminator)

/-- A span selects a slice of a source, both of its ends standing between characters. -/
def Span.Selects (span : Span) (source slice : List Char) : Prop :=
  ∃ before after, source = before ++ slice ++ after ∧
    span.start.toNat = byteLength before ∧ span.stop.toNat = byteLength (before ++ slice)

/-- Two spans select the same slice, each of its source. -/
def SameSlice (source other : List Char) (span span' : Span) : Prop :=
  ∃ slice, span.Selects source slice ∧ span'.Selects other slice

/-- The pieces of a text with another terminator in each of them make up the text with that
    terminator throughout. -/
theorem withTerminator_eq (terminator text : List Char) :
    withTerminator terminator text = joined ((splitLines text).map (ended terminator)) := by
  fun_induction splitLines text with
  | case1 => rfl
  | case2 rest ih =>
      rw [withTerminator, ih, List.map_cons, joined_cons]
      rfl
  | case3 c rest hpair hc ih =>
      -- The cases are those of the splitter, and a pair has been dealt with before.
      have hstep : withTerminator terminator (c :: rest)
          = terminator ++ withTerminator terminator rest := by
        rw [withTerminator, if_pos hc]
        exact hpair
      rw [hstep, ih, List.map_cons, joined_cons]
      rfl
  | case4 c rest hpair hc hnil ih =>
      have hstep : withTerminator terminator (c :: rest)
          = c :: withTerminator terminator rest := by
        rw [withTerminator, if_neg hc]
        exact hpair
      rw [hstep, ih, hnil]
      rfl
  | case5 c rest hpair hc text end' more hcons ih =>
      have hstep : withTerminator terminator (c :: rest)
          = c :: withTerminator terminator rest := by
        rw [withTerminator, if_neg hc]
        exact hpair
      rw [hstep, ih, hcons]
      rfl

-- Where carriage returns are the only terminators, no line feed is left.
theorem lineFeed_notMem_joined {pieces : List (List Char × List Char)} (h : WellCut pieces) :
    '\n' ∉ joined (pieces.map (ended ['\r'])) := by
  intro hmem
  rw [joined, List.flatMap_map] at hmem
  rcases List.mem_flatMap.mp hmem with ⟨piece, hpiece, hc⟩
  rcases List.mem_append.mp hc with htext | hend
  · exact (unbroken_iff.mp (h.unbroken hpiece)).1 htext
  · rw [ended] at hend
    split at hend
    · exact List.not_mem_nil hend
    · have hreturn : '\n' ∉ ['\r'] := by decide
      exact hreturn hend

/-- Pieces stay well cut when they all get the same terminator. -/
theorem WellCut.ended {pieces : List (List Char × List Char)} (h : WellCut pieces)
    {terminator : List Char} (hterminator : IsTerminator terminator) :
    WellCut (pieces.map (ended terminator)) := by
  induction h with
  | nil => exact .nil
  | last hne htext => exact .last hne htext
  | @cons text old more htext hold _ hmore ih =>
      have hend : TagNesting.ended terminator (text, old) = (text, terminator) := by
        rw [TagNesting.ended, if_neg hold.ne_nil]
      rw [List.map_cons, hend]
      refine .cons htext hterminator (fun hreturn hhead => ?_) ih
      subst hreturn
      exact lineFeed_notMem_joined hmore (List.mem_of_mem_head? hhead)

/-- The lines of a text with one terminator throughout are those of the text. -/
theorem splitLines_withTerminator {terminator : List Char} (h : IsTerminator terminator)
    (text : List Char) :
    splitLines (withTerminator terminator text) = (splitLines text).map (ended terminator) := by
  rw [withTerminator_eq, splitLines_joined ((wellCut_splitLines text).ended h)]

/-- The span of a tag selects the slice of its source that the tag comes from. -/
theorem selects_placed {source : List Char} {line : SourceLine} {tag : FoundTag}
    (hsize : byteLength source ≤ maxPosition) (hline : line ∈ sourceLines source)
    (htag : tag ∈ foundTags (StrippedLine.ofText line.text).text)
    {front slice back : List Char} (htext : line.text = front ++ slice ++ back)
    (hrange : line.range tag = (byteLength front, byteLength (front ++ slice))) :
    (line.placed tag).tag.span.Selects source slice := by
  have hend := add_byteLength_le_of_mem_sourceLines hline
  have hbounds := bounds_placed htag (by omega)
  rcases exists_append_of_mem_sourceLines hline with ⟨before, after, hsource, hoffset⟩
  simp only [hrange] at hbounds
  refine ⟨before ++ front, back ++ after, ?_, ?_, ?_⟩
  · rw [hsource, htext]
    simp only [List.append_assoc]
  · rw [hbounds.1, byteLength_append, hoffset, Nat.add_comm]
  · rw [hbounds.2, List.append_assoc, byteLength_append before, hoffset, Nat.add_comm]

section Ended

variable {source other : List Char}

/-- The tags of a line that stands in two sources under the same number, each selecting the
    same slice of both. -/
theorem tags_alike {line line' : SourceLine} (hsource : byteLength source ≤ maxPosition)
    (hother : byteLength other ≤ maxPosition) (hline : line ∈ sourceLines source)
    (hline' : line' ∈ sourceLines other) (hnumber : line.number = line'.number)
    (htext : line.text = line'.text) :
    List.Forall₂ (PlacedTag.Alike (SameSlice source other)) line.tags line'.tags := by
  rw [SourceLine.tags_eq_map, SourceLine.tags_eq_map, List.forall₂_map_left_iff,
    List.forall₂_map_right_iff, ← htext, List.forall₂_same]
  intro tag htag
  rcases exists_slice_of_mem_foundTags htag with ⟨front, slice, back, hslice, _, _, hrange, _⟩
  have hrange' : line'.range tag = (byteLength front, byteLength (front ++ slice)) := by
    rw [SourceLine.range, ← htext, hrange]
  refine ⟨hnumber, rfl, rfl, slice, ?_, ?_⟩
  · exact selects_placed hsource hline htag hslice hrange
  · exact selects_placed hother hline' (htext ▸ htag) (htext ▸ hslice) hrange'

-- Lines of the same texts, numbered alike from wherever they begin.
theorem forall₂_numberLines {pieces others : List (List Char × List Char)}
    (h : pieces.map Prod.fst = others.map Prod.fst) (number offset offset' : Nat) :
    List.Forall₂ (fun line line' => line.number = line'.number ∧ line.text = line'.text)
      (numberLines number offset pieces) (numberLines number offset' others) := by
  induction pieces generalizing others number offset offset' with
  | nil =>
      cases others with
      | nil => exact .nil
      | cons => cases h
  | cons piece pieces ih =>
      cases others with
      | nil => cases h
      | cons next others =>
          rw [List.map_cons, List.map_cons, List.cons.injEq] at h
          exact .cons ⟨rfl, h.1⟩ (ih h.2 _ _ _)

/-- The tags of two sources with the same lines, each selecting the same slice of both. -/
theorem sourceTags_alike (hsource : byteLength source ≤ maxPosition)
    (hother : byteLength other ≤ maxPosition)
    (h : (splitLines source).map Prod.fst = (splitLines other).map Prod.fst) :
    List.Forall₂ (PlacedTag.Alike (SameSlice source other)) (sourceTags source)
      (sourceTags other) := by
  rcases List.forall₂_iff_zip.mp (forall₂_numberLines h 1 0 0) with ⟨hlength, hpairs⟩
  have hlines : List.Forall₂ (fun line line' => (line ∈ sourceLines source ∧
      line' ∈ sourceLines other) ∧ line.number = line'.number ∧ line.text = line'.text)
      (sourceLines source) (sourceLines other) :=
    List.forall₂_iff_zip.mpr ⟨hlength, fun hpair => ⟨List.of_mem_zip hpair, hpairs hpair⟩⟩
  refine List.rel_flatMap hlines fun line line' hline => ?_
  exact tags_alike hsource hother hline.1.1 hline.1.2 hline.2.1 hline.2.2

/-- The findings of two sources with the same lines say the same of the same slices. -/
theorem findings_alike (void : List (List Char)) (hsource : byteLength source ≤ maxPosition)
    (hother : byteLength other ≤ maxPosition)
    (h : (splitLines source).map Prod.fst = (splitLines other).map Prod.fst) :
    List.Forall₂ (Finding.Alike (SameSlice source other)) (findings void source)
      (findings void other) := by
  have haffects : ∀ {placed placed' : PlacedTag}, placed.Alike (SameSlice source other) placed' →
      (affectsNesting void placed ↔ affectsNesting void placed') := by
    intro placed placed' halike
    rw [affectsNesting, affectsNesting, halike.kind_eq, halike.name_eq]
  refine reported_alike (List.rel_filter (fun placed placed' halike => ?_)
    (sourceTags_alike hsource hother h))
  exact haffects halike

end Ended

/-- A check of a source in which every line ends alike. Its lines are those of the source, with
    the same numbers and texts. It has the same messages, and each span of a finding selects
    the slice that the span in its place selects in the source. -/
theorem findings_withTerminator (void : List (List Char)) (source : List Char)
    {terminator : List Char} (h : IsTerminator terminator) :
    (sourceLines (withTerminator terminator source)).map (fun line => (line.number, line.text))
        = (sourceLines source).map (fun line => (line.number, line.text)) ∧
      (findings void (withTerminator terminator source)).map Finding.message
        = (findings void source).map Finding.message ∧
      (byteLength source ≤ maxPosition →
        byteLength (withTerminator terminator source) ≤ maxPosition →
          List.Forall₂ (Finding.Alike (SameSlice source (withTerminator terminator source)))
            (findings void source) (findings void (withTerminator terminator source))) := by
  have hpieces := splitLines_withTerminator h source
  have htexts : (splitLines source).map Prod.fst
      = (splitLines (withTerminator terminator source)).map Prod.fst := by
    rw [hpieces, List.map_map]
    rfl
  -- All three parts rest on the lines having the same texts.
  refine ⟨?_, ?_, fun hsource hother => findings_alike void hsource hother htexts⟩
  · have hlines := forall₂_numberLines htexts 1 0 0
    rw [← List.forall₂_eq_eq_eq, List.forall₂_map_left_iff, List.forall₂_map_right_iff]
    exact hlines.flip.imp fun line line' hline => Prod.ext hline.1.symm hline.2.symm
  · refine (messages_eq_of_strippedTexts void ?_).symm
    have hstripped := congrArg (List.map fun text => (StrippedLine.ofText text).text) htexts
    rw [List.map_map, List.map_map] at hstripped
    exact hstripped

/-- Three sorts of terminators become one. Of the two carriage returns in a row the first ends a
    line and the second belongs to the line feed behind it. -/
theorem findings_withTerminator_mixed :
    (findings [] (withTerminator ['\r', '\n'] "<a>\r\r\n</b>\n<é>".toList)).map Finding.message
        = ["Line 3: Mismatched closing tag </b>. Expected closing for <a>".toList,
          "Unclosed tags at end of file: ['é']".toList] ∧
      List.Forall₂ (Finding.Alike (SameSlice "<a>\r\r\n</b>\n<é>".toList
          (withTerminator ['\r', '\n'] "<a>\r\r\n</b>\n<é>".toList)))
        [.mismatchedClosing 3 "b".toList ⟨6, 4⟩ ⟨"a".toList, ⟨0, 3⟩⟩,
          .unclosed [⟨"é".toList, ⟨11, 4⟩⟩]]
        [.mismatchedClosing 3 "b".toList ⟨7, 4⟩ ⟨"a".toList, ⟨0, 3⟩⟩,
          .unclosed [⟨"é".toList, ⟨13, 4⟩⟩]] := by
  have hfindings : findings [] "<a>\r\r\n</b>\n<é>".toList
      = [.mismatchedClosing 3 "b".toList ⟨6, 4⟩ ⟨"a".toList, ⟨0, 3⟩⟩,
        .unclosed [⟨"é".toList, ⟨11, 4⟩⟩]] := by decide +kernel
  have hended : findings [] (withTerminator ['\r', '\n'] "<a>\r\r\n</b>\n<é>".toList)
      = [.mismatchedClosing 3 "b".toList ⟨7, 4⟩ ⟨"a".toList, ⟨0, 3⟩⟩,
        .unclosed [⟨"é".toList, ⟨13, 4⟩⟩]] := by decide +kernel
  rcases findings_withTerminator [] "<a>\r\r\n</b>\n<é>".toList
    (show IsTerminator ['\r', '\n'] from Or.inr (Or.inl rfl)) with ⟨_, hmessages, hslices⟩
  refine ⟨?_, ?_⟩
  · rw [hmessages, hfindings]
    decide +kernel
  · have halike := hslices (by decide +kernel) (by decide +kernel)
    rwa [hfindings, hended] at halike

end TagNesting
