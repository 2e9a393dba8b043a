import TagNesting.Proofs.StrippedLine

/-!
# Kept Text

What the block comments leave of a text, wherever the text stands. Unlike the runs it knows
nothing of positions, so it can be computed from the front: a character at which no comment
begins is kept, and a comment is passed over. A stretch of text at which no comment begins
is kept as it is.

The body of a comment that is passed over leaves no trace. With another body that closes at
the same place, no search before it ends otherwise: a comment there does not reach it, and
where none begins, none does now.

## Main definitions

* `keptText`: What the block comments leave of a text.

## Theorems

* `Strips.flatMap_text_eq`: The search keeps the same text wherever it stands.
* `keptText_cons`, `keptText_append_of_comment`: The kept text, from the front.
* `keptText_append`: A stretch at which no comment begins.
* `keptText_replace`: A comment with another body.
* `text_ofText_replace`: A line with another body in one of its comments.
* `text_ofText_slashes`: A line with a comment that two slashes begin.
-/

namespace TagNesting

/-- What the block comments leave of a text. -/
def keptText (text : List Char) : List Char := (StrippedLine.ofText text).runs.flatMap Run.text

theorem text_ofText (line : List Char) :
    (StrippedLine.ofText line).text = beforeSlashes (keptText line) := rfl

theorem Strips.of_none {position : Nat} {c : Char} {rest : List Char} {runs : List Run}
    (h : Strips position (c :: rest) runs) (hnone : afterComment? (c :: rest) = none) :
    ∃ run more, runs = ⟨position, c :: run.text⟩ :: more ∧
      Strips (position + c.utf8Size) rest (run :: more) := by
  generalize htext : c :: rest = text at h
  cases h with
  | done => cases htext
  | kept _ hrest =>
      rcases List.cons.inj htext with ⟨rfl, rfl⟩
      exact ⟨_, _, rfl, hrest⟩
  | comment hcomment _ =>
      rw [← htext, hnone] at hcomment
      cases hcomment

theorem Strips.of_comment {position : Nat} {comment rest : List Char} {runs : List Run}
    (h : Strips position (comment ++ rest) runs)
    (hcomment : afterComment? (comment ++ rest) = some rest) :
    ∃ more, runs = ⟨position, []⟩ :: more ∧
      Strips (position + byteLength comment) rest more := by
  generalize htext : comment ++ rest = text at h hcomment
  cases h with
  | done => cases hcomment
  | kept hnone _ =>
      rw [hnone] at hcomment
      cases hcomment
  | @comment _ other back _ hother hback =>
      -- Both comments end before the same rest, so they are one.
      rw [hcomment, Option.some.injEq] at hother
      subst hother
      rw [List.append_cancel_right htext]
      exact ⟨_, rfl, hback⟩

/-- The search keeps the same text wherever it stands. -/
theorem Strips.flatMap_text_eq {position other : Nat} {text : List Char}
    {runs runs' : List Run} (h : Strips position text runs) (h' : Strips other text runs') :
    runs.flatMap Run.text = runs'.flatMap Run.text := by
  -- The second search is inverted at every step of the first: the same text allows no other.
  induction h generalizing other runs' with
  | done =>
      generalize htext : ([] : List Char) = text at h'
      cases h' with
      | done => rfl
      | kept => cases htext
      | comment hcomment _ =>
          rw [← htext] at hcomment
          cases hcomment
  | kept hnone _ ih =>
      rcases h'.of_none hnone with ⟨run, more, rfl, hrest⟩
      rw [List.flatMap_cons, List.flatMap_cons, List.cons_append, List.cons_append,
        ← List.flatMap_cons, ← List.flatMap_cons, ih hrest]
  | comment hcomment _ ih =>
      rcases h'.of_comment hcomment with ⟨more, rfl, hrest⟩
      rw [List.flatMap_cons, List.flatMap_cons, ih hrest]

theorem Strips.flatMap_text {position : Nat} {text : List Char} {runs : List Run}
    (h : Strips position text runs) : runs.flatMap Run.text = keptText text :=
  h.flatMap_text_eq (strips_ofText text)

/-- A character at which no comment begins is kept. -/
theorem keptText_cons {c : Char} {rest : List Char} (hnone : afterComment? (c :: rest) = none) :
    keptText (c :: rest) = c :: keptText rest := by
  rcases (strips_ofText (c :: rest)).of_none hnone with ⟨run, more, hruns, hrest⟩
  rw [keptText, hruns, ← hrest.flatMap_text]
  rfl

/-- A comment is passed over. -/
theorem keptText_append_of_comment {comment rest : List Char}
    (hcomment : afterComment? (comment ++ rest) = some rest) :
    keptText (comment ++ rest) = keptText rest := by
  rcases (strips_ofText (comment ++ rest)).of_comment hcomment with
    ⟨more, hruns, hrest⟩
  rw [keptText, hruns, ← hrest.flatMap_text]
  rfl

/-- A stretch at which no comment begins is kept as it is. -/
theorem keptText_append {text : List Char} (rest : List Char)
    (hnone : ∀ part, part ≠ [] → part <:+ text → afterComment? (part ++ rest) = none) :
    keptText (text ++ rest) = text ++ keptText rest := by
  induction text with
  | nil => rfl
  | cons c text ih =>
      have hhead := hnone (c :: text) (List.cons_ne_nil _ _) List.suffix_rfl
      have hrest := ih fun part hne hpart => hnone part hne (hpart.trans (List.suffix_cons c text))
      rw [List.cons_append] at hhead ⊢
      rw [keptText_cons hhead, hrest, List.cons_append]

theorem afterComment?_blockComment {lead : List Char} (hlead : Blank lead)
    (body trail back : List Char) :
    afterComment? (blockComment lead body trail ++ back)
      = afterBody? (body ++ closing trail ++ back) := by
  have hopening : afterOpening? (blockComment lead body trail ++ back)
      = some (body ++ closing trail ++ back) := by
    refine (reads_afterOpening? _ _).mpr ⟨lead, hlead, ?_⟩
    rw [blockComment]
    simp only [List.append_assoc]
  rw [afterComment?_eq_bind, hopening, Option.bind_some]

section Replace

variable {lead body other trail back : List Char}

/-- A comment that the search passes over can have another body. -/
theorem keptText_replace (hlead : Blank lead)
    (hbody : afterComment? (blockComment lead body trail ++ back) = some back)
    (hother : afterComment? (blockComment lead other trail ++ back) = some back)
    {position : Nat} {text : List Char} {runs : List Run} (h : Strips position text runs)
    {front : List Char} (htext : text = front ++ (blockComment lead body trail ++ back))
    {range : Nat × Nat} (hmem : range ∈ removedRanges runs)
    (hfirst : range.1 = position + byteLength front)
    (hlast : range.2 = range.1 + byteLength (blockComment lead body trail)) :
    keptText (front ++ (blockComment lead other trail ++ back)) = keptText text := by
  have hclosed : ∀ {inner : List Char},
      afterComment? (blockComment lead inner trail ++ back) = some back →
        (afterBody? (inner ++ closing trail ++ back)).isSome = true := by
    intro inner hinner
    rw [← afterComment?_blockComment hlead, hinner]
    rfl
  -- The range is that of the comment at every step, so the search gets to it and not past it.
  induction h generalizing front with
  | done => exact absurd hmem List.not_mem_nil
  | @kept position c rest run runs hnone hrest ih =>
      rw [hrest.removedRanges_kept] at hmem
      have hle := hrest.le_of_mem_removedRanges hmem
      cases front with
      | nil =>
          have hsize := c.utf8Size_pos
          rw [byteLength_nil] at hfirst
          omega
      | cons d front =>
          rw [List.cons_append, List.cons.injEq] at htext
          rcases htext with ⟨rfl, rfl⟩
          rw [byteLength_cons, ← Nat.add_assoc] at hfirst
          -- What begins no comment begins none with the other body behind it.
          have hstill : afterComment? (c :: front ++ (blockComment lead other trail ++ back))
              = none :=
            afterComment?_append_blockComment (List.cons_ne_nil _ _) hlead (hclosed hbody)
              (hclosed hother) hnone
          rw [List.cons_append] at hstill ⊢
          rw [keptText_cons hnone, keptText_cons hstill, ih rfl hmem hfirst]
  | @comment position comment rest runs hcomment hrest ih =>
      rw [hrest.removedRanges_comment] at hmem
      rcases List.mem_cons.mp hmem with rfl | hmem
      · -- The comment is the one that has another body.
        dsimp only at hfirst hlast
        have hnil : front = [] := byteLength_eq_zero (by omega)
        subst hnil
        rw [List.nil_append] at htext ⊢
        rcases append_inj_of_byteLength_eq htext (by omega) with ⟨rfl, rfl⟩
        rw [keptText_append_of_comment hother, keptText_append_of_comment hbody]
      · -- This comment ends before the other begins, and is there whatever follows it.
        have hle := hrest.le_of_mem_removedRanges hmem
        rcases exists_append_of_byteLength_le htext (by omega) with ⟨gap, rfl, rfl⟩
        rw [byteLength_append, ← Nat.add_assoc] at hfirst
        rw [keptText_append_of_comment hcomment, ← ih rfl hmem hfirst, List.append_assoc,
          keptText_append_of_comment (afterComment?_append_of_eq_some hcomment _)]

/-- The body of a comment leaves no trace in its line: with another one that does not close before
    its end, nor is ended by a line feed, the line less its comments is the same. -/
theorem text_ofText_replace {front : List Char} (hlead : Blank lead) (htrail : Blank trail)
    (hremoved : (byteLength front, byteLength (front ++ blockComment lead body trail)) ∈
      removedRanges (StrippedLine.ofText (front ++ blockComment lead body trail ++ back)).runs)
    (hfeed : '\n' ∉ other) (hclosing : ¬ Holds closing other) :
    (StrippedLine.ofText (front ++ blockComment lead other trail ++ back)).text
      = (StrippedLine.ofText (front ++ blockComment lead body trail ++ back)).text := by
  have hstrips := strips_ofText (front ++ blockComment lead body trail ++ back)
  -- What is removed is a comment, and it is the one that stands there.
  have hbody : afterComment? (blockComment lead body trail ++ back) = some back := by
    rcases hstrips.exists_comment_of_mem_removedRanges hremoved with
      ⟨before, comment, after, htext, hcomment, hrange⟩
    rw [Nat.zero_add, Nat.zero_add, Prod.mk.injEq] at hrange
    rcases append_inj_of_byteLength_eq htext hrange.2 with ⟨hfront, rfl⟩
    rw [append_inj_of_byteLength_eq hfront hrange.1 |>.2]
    exact hcomment
  have hother : afterComment? (blockComment lead other trail ++ back) = some back :=
    afterComment?_eq_some_iff.mpr ⟨lead, other, trail, hlead, htrail, hfeed, hclosing, rfl⟩
  rw [text_ofText, text_ofText, List.append_assoc front (blockComment lead other trail) back,
    keptText_replace hlead hbody hother hstrips (List.append_assoc _ _ _) hremoved
      (Nat.zero_add _).symm (byteLength_append _ _)]

end Replace

-- What opens no comment opens none when two slashes follow.
theorem afterOpening?_append_slashes {text : List Char} (hopening : ¬ Holds opening text)
    (hne : text ≠ []) (hlast : text.getLast? ≠ some '/') (rest : List Char) :
    afterOpening? (text ++ '/' :: '/' :: rest) = none := by
  by_contra hsome
  rcases Option.ne_none_iff_exists'.mp hsome with ⟨body, hbody⟩
  rcases (reads_afterOpening? _ _).mp hbody with ⟨blanks, hblanks, heq⟩
  simp only [opening, List.cons_append, List.append_assoc, List.nil_append] at heq
  rcases List.exists_cons_of_ne_nil hne with ⟨c, more, rfl⟩
  rw [List.cons_append, List.cons.injEq] at heq
  rcases heq with ⟨rfl, heq⟩
  rcases append_cons_eq_blank_append hblanks (by decide) heq with
    ⟨_, _, hstar⟩ | ⟨inner, rfl, hinner⟩
  · -- The slash would be the first of the two, and a star would have to follow.
    rw [List.cons.injEq] at hstar
    exact absurd hstar.1 (by decide)
  · cases inner with
    | nil =>
        -- The slash of what opens would be the last character of the text.
        refine hlast ?_
        rw [← List.cons_append, List.getLast?_concat]
    | cons d inner =>
        -- All of what opens would be in the text.
        rw [List.cons_append, List.cons.injEq] at hinner
        rcases hinner with ⟨rfl, -⟩
        refine hopening ⟨blanks, hblanks, List.IsPrefix.isInfix ⟨inner, ?_⟩⟩
        simp only [opening, List.cons_append, List.append_assoc, List.nil_append]

-- The text before two slashes, if it has none in it and no slash at its end.
theorem beforeSlashes_append_slashes {text : List Char} (hslashes : ¬ ['/', '/'] <:+: text)
    (hlast : text.getLast? ≠ some '/') (rest : List Char) :
    beforeSlashes (text ++ '/' :: '/' :: rest) = text := by
  induction text with
  | nil => rfl
  | cons c text ih =>
      -- The two slashes would be in the text, or the first of them its last character.
      have hnot : ¬ ['/', '/'].isPrefixOf (c :: text ++ '/' :: '/' :: rest) = true := by
        rw [List.isPrefixOf_iff_prefix]
        intro hprefix
        rw [List.cons_append, List.cons_prefix_cons] at hprefix
        rcases hprefix with ⟨rfl, hprefix⟩
        cases text with
        | nil => exact hlast rfl
        | cons d text =>
            rw [List.cons_append, List.cons_prefix_cons] at hprefix
            rcases hprefix with ⟨rfl, -⟩
            exact hslashes (List.IsPrefix.isInfix ⟨text, rfl⟩)
      rw [List.cons_append] at hnot ⊢
      rw [beforeSlashes, if_neg hnot]
      cases text with
      | nil => rfl
      | cons d text =>
          rw [ih (fun hinner => hslashes (hinner.trans (List.suffix_cons c _).isInfix))]
          rwa [List.getLast?_cons_cons] at hlast

/-- Of a line with a comment that two slashes begin there is left what stands before them. -/
theorem text_ofText_slashes {front : List Char} (hslashes : ¬ ['/', '/'] <:+: front)
    (hopening : ¬ Holds opening front) (hlast : front.getLast? ≠ some '/') (rest : List Char) :
    (StrippedLine.ofText (front ++ '/' :: '/' :: rest)).text = front := by
  have hfront : keptText (front ++ '/' :: '/' :: rest)
      = front ++ keptText ('/' :: '/' :: rest) := by
    refine keptText_append _ fun part hne hpart => ?_
    rw [afterComment?_eq_bind, afterOpening?_append_slashes _ hne _ rest, Option.bind_none]
    · rintro ⟨blanks, hblanks, hinner⟩
      exact hopening ⟨blanks, hblanks, hinner.trans hpart.isInfix⟩
    · rcases hpart with ⟨before, rfl⟩
      rwa [List.getLast?_append_of_ne_nil _ hne] at hlast
  rw [text_ofText, hfront, keptText_cons rfl, keptText_cons rfl,
    beforeSlashes_append_slashes hslashes hlast]

end TagNesting
