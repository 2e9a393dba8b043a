import TagNesting.Proofs.KeptText

/-!
# The Removal of Comments

What is taken out of a line, said without the search that takes it out. The grammar of
block comments lets a body close before its end, so several comments can begin at one
place, and one can begin inside another. Which of them go is settled by two rules: the
first place at which any begins comes first, and of those that begin there the shortest
goes. Then the rest of the line is cleared by the same rules, behind the end of what went.

The search never looks for the shortest comment. It stops at the first `*/` that a brace
follows, and `afterComment?_append_iff` says that this comes to the same: whatever comment
begins at a place, the search gets no further than its end.

What the comments leave is put together as it is. A comment that only arises there stays,
for the search has gone past its beginning, while two slashes that only come together
there cut the line off like any others.

## Main definitions

* `IsComment`: The grammar of block comments.
* `BeginsComment`: Some comment begins a text.
* `IsShortest`: The shortest comment that begins a text.
* `Clears`: The removal of comments from a text, one after the other.
* `CutAtSlashes`: A text cut off in front of its first two slashes.

## Theorems

* `afterComment?_append_iff`: The search takes the shortest comment.
* `beginsComment_iff`: It takes one wherever one begins.
* `Strips.clears`: The search clears a line.
* `Clears.unique`: There is one way to clear a line.
* `cutAtSlashes_beforeSlashes`: The first two slashes cut a text off.
* `Strips.flatMap_text_of_mem`: What is kept on the two sides of a comment is put together.
* `text_of_removal`: The text of a line less its comments.
-/

namespace TagNesting

/-- The grammar of block comments. The body may hold anything but a line feed, even what would
    close the comment before its end. -/
def IsComment (text : List Char) : Prop :=
  ∃ lead body trail, Blank lead ∧ Blank trail ∧ '\n' ∉ body ∧ text = blockComment lead body trail

/-- Some block comment begins a text. -/
def BeginsComment (text : List Char) : Prop := ∃ comment, IsComment comment ∧ comment <+: text

/-- The shortest of the comments that begin a text. -/
structure IsShortest (comment text : List Char) : Prop where
  isComment : IsComment comment
  begins : comment <+: text
  length_le : ∀ other, IsComment other → other <+: text → comment.length ≤ other.length

/-- The removal of comments from a text that stands at byte `cursor` of its line: the ranges of
    the line that are dropped, and what is kept. -/
inductive Clears : Nat → List Char → List (Nat × Nat) → List Char → Prop where
  /-- No comment begins anywhere. -/
  | finish {cursor : Nat} {text : List Char}
      (hnone : ∀ rest, rest <:+ text → ¬ BeginsComment rest) : Clears cursor text [] text
  /-- The shortest comment at the first place where one begins is dropped. -/
  | drop {cursor : Nat} {before comment after kept : List Char} {ranges : List (Nat × Nat)}
      (hfirst : ∀ rest, rest <:+ before ++ (comment ++ after) → BeginsComment rest →
        rest <:+ comment ++ after)
      (hshortest : IsShortest comment (comment ++ after))
      (hrest : Clears (cursor + byteLength (before ++ comment)) after ranges kept) :
      Clears cursor (before ++ (comment ++ after))
        ((cursor + byteLength before, cursor + byteLength (before ++ comment)) :: ranges)
        (before ++ kept)

/-- A text is cut off in front of its first two slashes, and is all there if it has none. -/
def CutAtSlashes (kept text : List Char) : Prop :=
  ∃ rest, kept = text ++ rest ∧ (rest = [] ∨ ['/', '/'] <+: rest) ∧
    ∀ before after, kept = before ++ '/' :: '/' :: after → text.length ≤ before.length

/-! ## The shortest comment -/

-- A body is closed by what closes behind it, if nothing in it does that before.
theorem exists_afterBody?_append {body blanks : List Char} (hblanks : Blank blanks)
    (hfeed : '\n' ∉ body) (after : List Char) :
    ∃ gap, afterBody? (body ++ closing blanks ++ after) = some (gap ++ after) := by
  induction body with
  | nil =>
      exact ⟨[], afterBody?_of_some ((reads_afterClosing? _ _).mpr ⟨blanks, hblanks, rfl⟩)⟩
  | cons c body ih =>
      rw [List.mem_cons, not_or] at hfeed
      -- What closes at this character does so within the body: the star behind begins anew.
      have hcut : afterClosing? (c :: (body ++ closing blanks ++ after))
          = (afterClosing? (c :: body)).map (· ++ (closing blanks ++ after)) := by
        rw [List.append_assoc]
        exact afterClosing?_append_cons (List.cons_ne_nil c body) (by decide) (by decide)
          (by decide) _
      rw [List.cons_append, List.cons_append]
      cases hclosing : afterClosing? (c :: body) with
      | some inner =>
          rw [hclosing, Option.map_some] at hcut
          refine ⟨inner ++ closing blanks, ?_⟩
          rw [afterBody?_of_some hcut, List.append_assoc]
      | none =>
          rw [hclosing, Option.map_none] at hcut
          rw [afterBody?_cons_of_none hcut, if_neg (Ne.symm hfeed.1)]
          exact ih hfeed.2

-- Where a comment begins, the search gets no further than its end.
theorem IsComment.exists_afterComment? {comment : List Char} (h : IsComment comment)
    (after : List Char) : ∃ gap, afterComment? (comment ++ after) = some (gap ++ after) := by
  rcases h with ⟨lead, body, trail, hlead, htrail, hfeed, rfl⟩
  rw [afterComment?_blockComment hlead]
  exact exists_afterBody?_append htrail hfeed after

theorem isComment_of_afterComment? {comment after : List Char}
    (h : afterComment? (comment ++ after) = some after) : IsComment comment := by
  rcases afterComment?_eq_some_iff.mp h with ⟨lead, body, trail, hlead, htrail, hfeed, _, heq⟩
  exact ⟨lead, body, trail, hlead, htrail, hfeed, List.append_cancel_right heq⟩

/-- The search takes the shortest comment that begins a text. -/
theorem afterComment?_append_iff {comment after : List Char} :
    afterComment? (comment ++ after) = some after ↔ IsShortest comment (comment ++ after) := by
  constructor
  · intro h
    refine ⟨isComment_of_afterComment? h, List.prefix_append _ _, ?_⟩
    rintro other hother ⟨back, hback⟩
    rcases hother.exists_afterComment? back with ⟨gap, hgap⟩
    rw [hback, h, Option.some.injEq] at hgap
    -- Behind the other comment there is no more than behind the one the search took.
    have hlength := congrArg List.length hback
    simp only [hgap, List.length_append] at hlength
    omega
  · intro h
    rcases h.isComment.exists_afterComment? after with ⟨gap, hgap⟩
    rcases exists_append_of_afterComment? hgap with ⟨body, hbody⟩
    have hsplit : comment ++ after = '{' :: (body ++ gap) ++ after := by
      rw [hbody, List.cons_append, List.append_assoc]
    have hcomment : comment = '{' :: body ++ gap := List.append_cancel_right hsplit
    -- What the search took is a comment too, so nothing can be left of the shortest.
    have htaken : IsComment ('{' :: body) := by
      have hfound : afterComment? ('{' :: body ++ (gap ++ after)) = some (gap ++ after) := by
        rw [← hgap, hcomment, List.append_assoc]
      exact isComment_of_afterComment? hfound
    have hle := h.length_le _ htaken (by
      rw [hcomment, List.append_assoc]
      exact List.prefix_append _ _)
    rw [hcomment, List.length_append] at hle
    have hnil : gap = [] := List.length_eq_zero_iff.mp (by omega)
    rw [hgap, hnil, List.nil_append]

/-- The search takes a comment wherever one begins. -/
theorem beginsComment_iff {text : List Char} : BeginsComment text ↔ afterComment? text ≠ none := by
  constructor
  · rintro ⟨comment, hcomment, after, rfl⟩
    rcases hcomment.exists_afterComment? after with ⟨gap, hgap⟩
    rw [hgap]
    exact Option.some_ne_none _
  · intro h
    rcases Option.ne_none_iff_exists'.mp h with ⟨after, hafter⟩
    rcases exists_append_of_afterComment? hafter with ⟨body, rfl⟩
    rw [← List.cons_append] at hafter ⊢
    exact ⟨_, isComment_of_afterComment? hafter, List.prefix_append _ _⟩

/-! ## Clearing a line -/

/-- A character at which no comment begins is kept. -/
theorem Clears.cons {cursor : Nat} {c : Char} {text kept : List Char} {ranges : List (Nat × Nat)}
    (h : Clears (cursor + c.utf8Size) text ranges kept) (hnone : ¬ BeginsComment (c :: text)) :
    Clears cursor (c :: text) ranges (c :: kept) := by
  cases h with
  | finish hrest =>
      refine .finish fun rest hsuffix => ?_
      rcases List.suffix_cons_iff.mp hsuffix with rfl | hsuffix
      · exact hnone
      · exact hrest rest hsuffix
  | @drop _ before comment after kept ranges hfirst hshortest hrest =>
      have hcons : Clears cursor (c :: before ++ (comment ++ after))
          ((cursor + byteLength (c :: before), cursor + byteLength (c :: before ++ comment)) ::
            ranges) (c :: before ++ kept) := by
        refine .drop (fun rest hsuffix hbegins => ?_) hshortest ?_
        · rcases List.suffix_cons_iff.mp hsuffix with rfl | hsuffix
          · exact absurd hbegins hnone
          · exact hfirst rest hsuffix hbegins
        · rw [List.cons_append, byteLength_cons, ← Nat.add_assoc]
          exact hrest
      rw [List.cons_append, List.cons_append, byteLength_cons, byteLength_cons, ← Nat.add_assoc,
        ← Nat.add_assoc] at hcons
      exact hcons

/-- The search clears a line: it drops what it takes out and keeps what it leaves. -/
theorem Strips.clears {position : Nat} {text : List Char} {runs : List Run}
    (h : Strips position text runs) :
    Clears position text (removedRanges runs) (runs.flatMap Run.text) := by
  induction h with
  | done position =>
      refine .finish fun rest hsuffix => ?_
      rw [List.suffix_nil.mp hsuffix, beginsComment_iff, not_not]
      rfl
  | kept hnone hrest ih =>
      rw [hrest.removedRanges_kept]
      exact ih.cons (by rw [beginsComment_iff, not_not, hnone])
  | @comment position comment rest runs hcomment hrest ih =>
      rw [hrest.removedRanges_comment]
      -- The comment begins where the text does, and no place comes before that.
      have hdrop := @Clears.drop position [] comment rest _ _ (fun _ hsuffix _ => hsuffix)
        (afterComment?_append_iff.mp hcomment) ih
      exact hdrop

/-- There is one way to clear a line. -/
theorem Clears.unique {cursor : Nat} {text kept kept' : List Char}
    {ranges ranges' : List (Nat × Nat)} (h : Clears cursor text ranges kept)
    (h' : Clears cursor text ranges' kept') : ranges = ranges' ∧ kept = kept' := by
  induction h generalizing kept' ranges' with
  | finish hnone =>
      cases h' with
      | finish => exact ⟨rfl, rfl⟩
      | @drop _ before comment after _ _ _ hshortest _ =>
          exact absurd ⟨comment, hshortest.isComment, hshortest.begins⟩
            (hnone _ (List.suffix_append before _))
  | @drop cursor before comment after kept ranges hfirst hshortest hrest ih =>
      have hbegins : BeginsComment (comment ++ after) :=
        ⟨comment, hshortest.isComment, hshortest.begins⟩
      generalize htext : before ++ (comment ++ after) = text at h'
      cases h' with
      | finish hnone => exact absurd hbegins (hnone _ (htext ▸ List.suffix_append before _))
      | @drop _ before' comment' after' _ _ hfirst' hshortest' hrest' =>
          have hbegins' : BeginsComment (comment' ++ after') :=
            ⟨comment', hshortest'.isComment, hshortest'.begins⟩
          -- Each of the two first places comes no later than the other.
          have hsame : comment ++ after = comment' ++ after' := by
            have hle := hfirst _ (htext ▸ List.suffix_append before' _) hbegins'
            have hge := hfirst' _ (htext ▸ List.suffix_append before _) hbegins
            exact hge.eq_of_length_le hle.length_le
          -- And neither of the two shortest comments is longer than the other.
          have hlength : comment.length = comment'.length := by
            have hle := hshortest.length_le _ hshortest'.isComment (hsame ▸ hshortest'.begins)
            have hge := hshortest'.length_le _ hshortest.isComment (hsame ▸ hshortest.begins)
            omega
          rcases List.append_inj hsame hlength with ⟨rfl, rfl⟩
          have hbefore : before = before' := List.append_cancel_right htext
          subst hbefore
          rcases ih hrest' with ⟨rfl, rfl⟩
          exact ⟨rfl, rfl⟩

/-! ## What is dropped and what is kept -/

/-- What the first two slashes cut off a text. -/
theorem cutAtSlashes_beforeSlashes (kept : List Char) : CutAtSlashes kept (beforeSlashes kept) := by
  induction kept with
  | nil => exact ⟨[], rfl, Or.inl rfl, fun _ _ _ => Nat.zero_le _⟩
  | cons c kept ih =>
      rw [beforeSlashes]
      by_cases hslashes : ['/', '/'].isPrefixOf (c :: kept) = true
      · rw [if_pos hslashes]
        exact ⟨c :: kept, rfl, Or.inr (List.isPrefixOf_iff_prefix.mp hslashes),
          fun _ _ _ => Nat.zero_le _⟩
      · rw [if_neg hslashes]
        rcases ih with ⟨rest, hkept, hrest, hfirst⟩
        refine ⟨rest, by rw [List.cons_append, ← hkept], hrest, fun before after hsplit => ?_⟩
        cases before with
        | nil =>
            -- Two slashes at this place would have been the first ones.
            refine absurd (List.isPrefixOf_iff_prefix.mpr ?_) hslashes
            rw [hsplit]
            exact ⟨after, rfl⟩
        | cons d before =>
            rw [List.cons_append, List.cons.injEq] at hsplit
            have hle := hfirst before after hsplit.2
            simp only [List.length_cons]
            omega

theorem CutAtSlashes.not_infix {kept text : List Char} (h : CutAtSlashes kept text) :
    ¬ ['/', '/'] <:+: text := by
  rintro ⟨before, after, hsplit⟩
  rcases h with ⟨rest, hkept, _, hfirst⟩
  have hle := hfirst before (after ++ rest) (by rw [hkept, ← hsplit]; simp)
  have hlength := congrArg List.length hsplit
  simp only [List.length_append, List.length_cons, List.length_nil] at hlength
  omega

theorem Strips.pairwise_removedRanges {position : Nat} {text : List Char} {runs : List Run}
    (h : Strips position text runs) :
    (removedRanges runs).Pairwise fun range next => range.2 ≤ next.1 := by
  induction h with
  | done => exact List.Pairwise.nil
  | kept _ hrest ih =>
      rw [hrest.removedRanges_kept]
      exact ih
  | comment _ hrest ih =>
      rw [hrest.removedRanges_comment]
      exact List.pairwise_cons.mpr ⟨fun next hnext => hrest.le_of_mem_removedRanges hnext, ih⟩

/-- What is kept of a line is what is kept before one of its comments and what is kept of the text
    behind it. Neither depends on the other, so no comment is found across the seam. -/
theorem Strips.flatMap_text_of_mem {position : Nat} {text : List Char} {runs : List Run}
    (h : Strips position text runs) {front comment back : List Char}
    (htext : text = front ++ (comment ++ back))
    (hmem : (position + byteLength front, position + byteLength (front ++ comment))
      ∈ removedRanges runs) :
    runs.flatMap Run.text = outside (removedRanges runs) position front ++ keptText back := by
  induction h generalizing front with
  | done => exact absurd hmem List.not_mem_nil
  | @kept position c rest run runs hnone hrest ih =>
      rw [hrest.removedRanges_kept] at hmem ⊢
      have hle := hrest.le_of_mem_removedRanges hmem
      have hsize := c.utf8Size_pos
      cases front with
      | nil =>
          -- The removed range would begin before the character that is kept.
          simp only [byteLength_nil] at hle
          omega
      | cons d front =>
          rw [List.cons_append, List.cons.injEq] at htext
          rcases htext with ⟨rfl, rfl⟩
          simp only [List.cons_append, byteLength_cons, ← Nat.add_assoc] at hmem
          rw [outside, hrest.not_inRange, if_neg Bool.false_ne_true, List.cons_append,
            ← ih rfl hmem]
          rfl
  | @comment position taken rest runs hcomment hrest ih =>
      rw [hrest.removedRanges_comment] at hmem ⊢
      rw [List.flatMap_cons, List.nil_append]
      rcases List.mem_cons.mp hmem with heq | hmem
      · -- It is this comment, and nothing is kept before it.
        simp only [Prod.mk.injEq, byteLength_append] at heq
        have hsize : byteLength taken = byteLength comment := by omega
        have hnil : front = [] := byteLength_eq_zero (by omega)
        subst hnil
        rw [List.nil_append] at htext
        rcases append_inj_of_byteLength_eq htext hsize with ⟨rfl, rfl⟩
        exact hrest.flatMap_text
      · -- It is a later one, so this comment stands in front of it.
        have hle := hrest.le_of_mem_removedRanges hmem
        rcases exists_append_of_byteLength_le htext (by omega) with ⟨gap, rfl, rfl⟩
        simp only [byteLength_append, ← Nat.add_assoc] at hmem
        rw [outside_append, outside_cons_of_within (Nat.le_refl _) (Nat.le_refl _),
          outside_cons_of_le (Nat.le_refl _), List.nil_append]
        exact ih rfl (by simpa only [byteLength_append, ← Nat.add_assoc] using hmem)

/-- The text of a line less its comments. The line is cleared in the one way there is, from its
    beginning on, and what is kept is cut off in front of its first two slashes. So there are no
    two slashes left. What is dropped are comments that no shorter one begins, none on top of
    another. What is kept before one of them and what is kept of the text behind it are put
    together as they are, and only that is cut off. -/
theorem text_of_removal (line : List Char) :
    (∀ ranges kept, Clears 0 line ranges kept ↔
      ranges = removedRanges (StrippedLine.ofText line).runs ∧ kept = keptText line) ∧
      CutAtSlashes (keptText line) (StrippedLine.ofText line).text ∧
      ¬ ['/', '/'] <:+: (StrippedLine.ofText line).text ∧
      (∀ range ∈ removedRanges (StrippedLine.ofText line).runs, ∃ front comment back,
        line = front ++ (comment ++ back) ∧
          range = (byteLength front, byteLength (front ++ comment)) ∧ IsComment comment ∧
          ∀ other, other <+: comment → IsComment other → other = comment) ∧
      (removedRanges (StrippedLine.ofText line).runs).Pairwise
        (fun range next => range.2 ≤ next.1) ∧
      ∀ front comment back, line = front ++ (comment ++ back) →
        (byteLength front, byteLength (front ++ comment))
          ∈ removedRanges (StrippedLine.ofText line).runs →
        keptText line = outside (removedRanges (StrippedLine.ofText line).runs) 0 front
          ++ keptText back := by
  have hstrips := strips_ofText line
  have hclears : Clears 0 line (removedRanges (StrippedLine.ofText line).runs) (keptText line) :=
    hstrips.clears
  have hcut : CutAtSlashes (keptText line) (StrippedLine.ofText line).text := by
    rw [text_ofText]
    exact cutAtSlashes_beforeSlashes _
  refine ⟨fun ranges kept => ⟨fun h => h.unique hclears, ?_⟩, hcut, hcut.not_infix, ?_,
    hstrips.pairwise_removedRanges, ?_⟩
  · rintro ⟨rfl, rfl⟩
    exact hclears
  · intro range hmem
    rcases hstrips.exists_comment_of_mem_removedRanges hmem with
      ⟨front, comment, back, htext, hcomment, hrange⟩
    have hshortest := afterComment?_append_iff.mp hcomment
    refine ⟨front, comment, back, by rw [htext, List.append_assoc], ?_, hshortest.isComment,
      fun other hpart hother => ?_⟩
    · rw [hrange, Nat.zero_add, Nat.zero_add]
    · -- A part of the comment that is one is no shorter, so it is all of it.
      exact hpart.eq_of_length_le
        (hshortest.length_le _ hother (hpart.trans (List.prefix_append _ _)))
  · intro front comment back htext hmem
    exact hstrips.flatMap_text_of_mem htext (by simpa only [Nat.zero_add] using hmem)

/-- A comment that is taken out puts another together, and so do two slashes. The comment stays,
    the slashes cut the line off. -/
theorem text_of_removal_seams :
    Clears 0 "\x7b\x7b/**/\x7d/*x*/\x7d/\x7b/*<b>*/\x7d/ y".toList [(1, 7), (14, 23)]
        "\x7b/*x*/\x7d// y".toList ∧
      IsComment "\x7b/*x*/\x7d".toList ∧
      keptText "\x7b\x7b/**/\x7d/*x*/\x7d/\x7b/*<b>*/\x7d/ y".toList
        = ['{'] ++ keptText "/*x*/\x7d/\x7b/*<b>*/\x7d/ y".toList ∧
      (StrippedLine.ofText "\x7b\x7b/**/\x7d/*x*/\x7d/\x7b/*<b>*/\x7d/ y".toList).text
        = "\x7b/*x*/\x7d".toList := by
  have hranges : removedRanges
      (StrippedLine.ofText "\x7b\x7b/**/\x7d/*x*/\x7d/\x7b/*<b>*/\x7d/ y".toList).runs
        = [(1, 7), (14, 23)] := by decide
  rcases text_of_removal "\x7b\x7b/**/\x7d/*x*/\x7d/\x7b/*<b>*/\x7d/ y".toList with
    ⟨hclears, _, _, _, _, hseam⟩
  refine ⟨(hclears _ _).mpr ⟨hranges.symm, by decide⟩, ?_, ?_, by decide⟩
  · exact ⟨[], ['x'], [], by decide, by decide, by decide, rfl⟩
  · have hkept := hseam ['{'] "\x7b/**/\x7d".toList "/*x*/\x7d/\x7b/*<b>*/\x7d/ y".toList rfl
      (by rw [hranges]; decide)
    rw [hkept, hranges]
    rfl

end TagNesting
