import TagNesting.Proofs.TagName

/-!
# The Grammar of Tags

What a tag is, said without a search: a `<`, perhaps a slash, a name, perhaps blanks with
anything behind them but a `>`, perhaps another slash, and a `>`. The parts overlap, for the
text behind a blank can end in a slash as well, so a text can be a tag in two ways. It is the
same tag both times.

No `>` can stand in a tag but its last character. A tag that begins at a place therefore ends
at the first `>` behind it, and there is at most one. That is why it does not matter how a
search for tags goes about it, as long as it goes from left to right: a list of tags in order,
none of them on top of another, in which every place where a tag begins is covered, can only
be the list that `foundTags` finds.

## Main definitions

* `IsAttributeText`: What may stand between the name of a tag and its end.
* `IsTagText`: The grammar of tags.
* `FindsTags`: A list of tags that leaves none out.

## Theorems

* `isTagText_iff`: The grammar and the parts of a tag say the same.
* `tagLength?_append`: A tag is found where it begins, whatever follows it.
* `isTagText_prefix_unique`: At most one tag begins a text.
* `Scans.exists_of_tagLength?`: The search covers every place where a tag begins.
* `FindsTags.unique`: Only one list leaves none out.
* `tags_of_grammar`: The tags of a line are those of the grammar.
-/

namespace TagNesting

/-- What may stand between the name of a tag and its end: nothing, or one blank or more and then
    anything but a `>`. -/
def IsAttributeText (text : List Char) : Prop :=
  text = [] ∨ ∃ blanks rest, text = blanks ++ rest ∧ blanks ≠ [] ∧
    (∀ c ∈ blanks, isBlank c = true) ∧ '>' ∉ rest

/-- The grammar of tags. The slash behind the attributes is a part of its own, though they can
    end in one themselves. -/
def IsTagText (text : List Char) : Prop :=
  ∃ front name attributes ending,
    text = '<' :: (front ++ name ++ attributes ++ ending ++ ['>']) ∧
      (front = [] ∨ front = ['/']) ∧ (name ≠ [] ∧ ∀ c ∈ name, isNameChar c = true) ∧
      IsAttributeText attributes ∧ (ending = [] ∨ ending = ['/'])

/-- Tags of a text in order, none on top of another, such that every place of the text where a
    tag begins is inside one of them. -/
structure FindsTags (text : List Char) (found : List FoundTag) : Prop where
  /-- Each is a tag, and a part of the text at the byte it is said to stand at. -/
  sound : ∀ tag ∈ found, ∃ before after, text = before ++ tag.text ++ after ∧
    tag.start = byteLength before ∧ IsTagText tag.text
  /-- Each begins at or behind the end of the one before. -/
  ordered : found.Pairwise fun tag next => tag.start + byteLength tag.text ≤ next.start
  /-- None is missed. -/
  complete : ∀ before tag after, text = before ++ tag ++ after → IsTagText tag →
    ∃ hit ∈ found, hit.start ≤ byteLength before ∧
      byteLength before < hit.start + byteLength hit.text

/-! ## The grammar and the parts -/

theorem TagTail.of_attributes {attributes ending : List Char}
    (hattributes : IsAttributeText attributes) (hending : ending = [] ∨ ending = ['/']) :
    TagTail (attributes ++ ending ++ ['>']) := by
  rcases hattributes with rfl | ⟨blanks, rest, rfl, hne, hblanks, hrest⟩
  · rcases hending with rfl | rfl
    · exact .close
    · exact .slash
  · -- The first blank opens the tail, and nothing behind it holds a `>` before the last one.
    rcases List.exists_cons_of_ne_nil hne with ⟨c, more, rfl⟩
    have hmore : '>' ∉ more := by
      intro hmem
      have hblank := hblanks '>' (List.mem_cons_of_mem c hmem)
      exact absurd hblank (by decide)
    have hend : '>' ∉ ending := by
      rcases hending with rfl | rfl
      · exact List.not_mem_nil
      · decide
    have hbody : '>' ∉ more ++ rest ++ ending := by
      simp only [List.mem_append, not_or]
      exact ⟨⟨hmore, hrest⟩, hend⟩
    exact .blank (hblanks c List.mem_cons_self) hbody

theorem TagTail.exists_attributes {tail : List Char} (h : TagTail tail) :
    ∃ attributes ending, tail = attributes ++ ending ++ ['>'] ∧ IsAttributeText attributes ∧
      (ending = [] ∨ ending = ['/']) := by
  cases h with
  | close => exact ⟨[], [], rfl, Or.inl rfl, Or.inl rfl⟩
  | slash => exact ⟨[], ['/'], rfl, Or.inl rfl, Or.inr rfl⟩
  | @blank c body hblank hbody =>
      refine ⟨c :: body, [], ?_, Or.inr ⟨[c], body, rfl, List.cons_ne_nil _ _, ?_, hbody⟩,
        Or.inl rfl⟩
      · simp only [List.append_nil, List.cons_append]
      · intro d hd
        rw [List.mem_singleton.mp hd]
        exact hblank

/-- The grammar and the parts of a tag say the same. -/
theorem isTagText_iff {text : List Char} :
    IsTagText text ↔ ∃ slash name tail, TagParts text slash name tail := by
  constructor
  · rintro ⟨front, name, attributes, ending, htext, hfront, ⟨hne, hname⟩, hattributes, hending⟩
    refine ⟨front, name, attributes ++ ending ++ ['>'], ?_, hfront, hne, hname,
      .of_attributes hattributes hending⟩
    rw [htext]
    simp only [List.append_assoc]
  · rintro ⟨slash, name, tail, hparts⟩
    rcases hparts.tail_ends.exists_attributes with ⟨attributes, ending, htail, hattributes, hending⟩
    refine ⟨slash, name, attributes, ending, ?_, hparts.slash_cases,
      ⟨hparts.name_ne, hparts.isNameChar_name⟩, hattributes, hending⟩
    rw [hparts.text_eq, htail]
    simp only [List.append_assoc]

/-! ## Reading a tag -/

theorem TagTail.exists_cons {tail : List Char} (h : TagTail tail) :
    ∃ c rest, tail = c :: rest ∧ isNameChar c = false := by
  cases h with
  | close => exact ⟨'>', [], rfl, by decide⟩
  | slash => exact ⟨'/', ['>'], rfl, by decide⟩
  | @blank c body hblank _ => exact ⟨c, body ++ ['>'], rfl, isNameChar_of_isBlank hblank⟩

/-- The end of a tag is recognized whatever stands behind it. -/
theorem tagTailLength?_append {tail : List Char} (h : TagTail tail) (rest : List Char) :
    tagTailLength? (tail ++ rest) = some tail.length := by
  cases h with
  | close => rfl
  | slash => rfl
  | @blank c body hblank hbody =>
      have htext : (c :: (body ++ ['>'])) ++ rest = c :: (body ++ '>' :: rest) := by
        rw [List.cons_append, List.append_assoc, List.singleton_append]
      -- What stands behind the tag does not matter: the tail ends at its first `>`.
      have htake : (body ++ '>' :: rest).takeWhile (· != '>') = body := by
        rw [List.takeWhile_append_of_pos, List.takeWhile_cons_of_neg (by decide), List.append_nil]
        intro d hd
        rw [bne_iff_ne]
        rintro rfl
        exact hbody hd
      have hends : (body ++ '>' :: rest).contains '>' = true :=
        List.contains_iff_mem.mpr (List.mem_append_right _ List.mem_cons_self)
      rw [htext, tagTailLength?.eq_def]
      split
      · -- A blank is no `>` and no slash, so this is no shorter tail.
        rename_i heq
        rw [(List.cons.inj heq).1] at hblank
        exact absurd hblank (by decide)
      · rename_i heq
        rw [(List.cons.inj heq).1] at hblank
        exact absurd hblank (by decide)
      · rename_i d more _ _ heq
        rw [← (List.cons.inj heq).1, ← (List.cons.inj heq).2, hblank, hends, htake,
          List.length_cons, List.length_append, List.length_singleton]
        rfl
      · rename_i heq
        cases heq

/-- A tag is found where it begins, whatever follows it. -/
theorem tagLength?_append {tag : List Char} (h : IsTagText tag) (rest : List Char) :
    tagLength? (tag ++ rest) = some tag.length := by
  rcases isTagText_iff.mp h with ⟨slash, name, tail, hparts⟩
  rcases hparts.exists_cons with ⟨c, more, hname, hc⟩
  rcases hparts.tail_ends.exists_cons with ⟨d, after, htail, hd⟩
  have htext : tag ++ rest = '<' :: (slash ++ (name ++ (tail ++ rest))) := by
    rw [hparts.text_eq]
    simp only [List.cons_append, List.append_assoc]
  have hslash : (if ['/'].isPrefixOf (slash ++ (name ++ (tail ++ rest))) = true then 1 else 0)
      = slash.length := by
    rcases hparts.slash_cases with rfl | rfl
    · -- The name does not begin with a slash.
      have hne : ('/' == c) = false := by
        rw [beq_eq_false_iff_ne]
        rintro rfl
        exact absurd hc (by decide)
      have hfront : ['/'].isPrefixOf ([] ++ (name ++ (tail ++ rest))) = false := by
        rw [hname]
        change ('/' == c && true) = false
        rw [hne, Bool.false_and]
      rw [hfront]
      rfl
    · rfl
  -- The name ends where the rest of the tag begins, and that ends by itself.
  have htake : (name ++ (tail ++ rest)).takeWhile isNameChar = name := by
    rw [List.takeWhile_append_of_pos hparts.isNameChar_name, htail, List.cons_append,
      List.takeWhile_cons_of_neg (by rw [hd]; exact Bool.false_ne_true), List.append_nil]
  have hempty : name.isEmpty = false := List.isEmpty_eq_false_iff.mpr hparts.name_ne
  rw [htext, tagLength?]
  simp only [hslash, List.drop_left, htake, hempty, Bool.false_eq_true, if_false]
  rw [← List.drop_drop, List.drop_left, List.drop_left, tagTailLength?_append hparts.tail_ends,
    Option.map_some, hparts.text_eq]
  simp only [List.length_cons, List.length_append, Option.some.injEq]
  omega

/-- A tag runs from a `<` to the first `>` behind it. -/
theorem IsTagText.exists_append {tag : List Char} (h : IsTagText tag) :
    ∃ body, tag = '<' :: (body ++ ['>']) ∧ '>' ∉ body := by
  rcases isTagText_iff.mp h with ⟨slash, name, tail, hparts⟩
  exact hparts.exists_append

/-- At most one tag begins a text. -/
theorem isTagText_prefix_unique {tag rest tag' rest' : List Char} (h : IsTagText tag)
    (h' : IsTagText tag') (heq : tag ++ rest = tag' ++ rest') : tag = tag' := by
  have hlength := tagLength?_append h rest
  rw [heq, tagLength?_append h', Option.some.injEq] at hlength
  exact (List.append_inj heq hlength.symm).1

/-! ## Searching for tags -/

/-- The search covers every place where a tag begins: it is passed over if no tag is found there,
    and a tag that is found earlier covers it if the search has skipped it. -/
theorem Scans.exists_of_tagLength? {position : Nat} {text : List Char} {found : List FoundTag}
    (h : Scans position text found) {before rest : List Char} {length : Nat}
    (htext : text = before ++ rest) (hlength : tagLength? rest = some length) :
    ∃ hit ∈ found, hit.start ≤ position + byteLength before ∧
      position + byteLength before < hit.start + byteLength hit.text := by
  induction h generalizing before with
  | done =>
      rcases List.nil_eq_append_iff.mp htext with ⟨_, rfl⟩
      cases hlength
  | @skip position c text found hnone _ ih =>
      cases before with
      | nil =>
          rw [List.nil_append] at htext
          -- No tag begins at a character that the search skips.
          rw [htext, hlength] at hnone
          cases hnone
      | cons d before =>
          rw [List.cons_append, List.cons.injEq] at htext
          rcases ih htext.2 with ⟨hit, hmem, hstart, hstop⟩
          rw [htext.1] at hstart hstop
          refine ⟨hit, hmem, ?_, ?_⟩
          · rw [byteLength_cons]
            omega
          · rw [byteLength_cons]
            omega
  | @tag position tag text found _ _ ih =>
      by_cases hinside : byteLength before < byteLength tag
      · exact ⟨⟨position, tag⟩, List.mem_cons_self, Nat.le_add_right _ _,
          Nat.add_lt_add_left hinside _⟩
      · -- The place is behind the tag, so the search comes to it later.
        rcases exists_append_of_byteLength_le htext (Nat.le_of_not_lt hinside) with
          ⟨gap, rfl, hrest⟩
        rcases ih hrest with ⟨hit, hmem, hstart, hstop⟩
        refine ⟨hit, List.mem_cons_of_mem _ hmem, ?_, ?_⟩
        · rw [byteLength_append]
          omega
        · rw [byteLength_append]
          omega

/-- The search finds the tags that the grammar says there are. -/
theorem findsTags_foundTags (text : List Char) : FindsTags text (foundTags text) where
  sound := by
    intro tag hmem
    rcases (scans_foundTags text).exists_append hmem with ⟨before, after, htext, hstart, _⟩
    refine ⟨before, after, htext, ?_, isTagText_iff.mpr (exists_parts_of_mem_foundTags hmem)⟩
    rw [hstart, Nat.zero_add]
  ordered := pairwise_foundTags text
  complete := by
    intro before tag after htext htag
    rw [List.append_assoc] at htext
    have hhit := (scans_foundTags text).exists_of_tagLength? htext (tagLength?_append htag after)
    rwa [Nat.zero_add] at hhit

/-! ## One list only -/

/-- Tags of the text that begin at one byte are the same. -/
theorem FindsTags.eq_of_start_eq {text : List Char} {found other : List FoundTag}
    (h : FindsTags text found) (h' : FindsTags text other) {tag tag' : FoundTag}
    (hmem : tag ∈ found) (hmem' : tag' ∈ other) (hstart : tag.start = tag'.start) :
    tag = tag' := by
  rcases h.sound tag hmem with ⟨before, after, htext, hbefore, htag⟩
  rcases h'.sound tag' hmem' with ⟨before', after', htext', hbefore', htag'⟩
  rw [htext, List.append_assoc, List.append_assoc] at htext'
  have hcut := append_inj_of_byteLength_eq htext' (by rw [← hbefore, ← hbefore', hstart])
  have hsame := isTagText_prefix_unique htag htag' hcut.2
  cases tag
  cases tag'
  simp only at hstart hsame
  rw [hstart, hsame]

/-- Of two lists that leave no tag out, each tag in the one begins inside a tag of the other. -/
theorem FindsTags.exists_covers {text : List Char} {found other : List FoundTag}
    (h : FindsTags text found) (h' : FindsTags text other) {tag : FoundTag} (hmem : tag ∈ found) :
    ∃ hit ∈ other, hit.start ≤ tag.start ∧ tag.start < hit.start + byteLength hit.text := by
  rcases h.sound tag hmem with ⟨before, after, htext, hbefore, htag⟩
  rw [hbefore]
  exact h'.complete before tag.text after htext htag

-- Lists in order are the same if what begins in one is covered by the other and what begins at
-- one place is the same: the two that come first cover each other, so they begin together.
theorem eq_of_covers {found other : List FoundTag}
    (hordered : found.Pairwise fun tag next => tag.start + byteLength tag.text ≤ next.start)
    (hordered' : other.Pairwise fun tag next => tag.start + byteLength tag.text ≤ next.start)
    (hcovers : ∀ tag ∈ found, ∃ hit ∈ other, hit.start ≤ tag.start ∧
      tag.start < hit.start + byteLength hit.text)
    (hcovers' : ∀ tag ∈ other, ∃ hit ∈ found, hit.start ≤ tag.start ∧
      tag.start < hit.start + byteLength hit.text)
    (hsame : ∀ tag ∈ found, ∀ tag' ∈ other, tag.start = tag'.start → tag = tag') :
    found = other := by
  induction found generalizing other with
  | nil =>
      cases other with
      | nil => rfl
      | cons tag other =>
          rcases hcovers' tag List.mem_cons_self with ⟨hit, hmem, _⟩
          exact absurd hmem List.not_mem_nil
  | cons first found ih =>
      cases other with
      | nil =>
          rcases hcovers first List.mem_cons_self with ⟨hit, hmem, _⟩
          exact absurd hmem List.not_mem_nil
      | cons first' other =>
          rw [List.pairwise_cons] at hordered hordered'
          have hle : first'.start ≤ first.start := by
            rcases hcovers first List.mem_cons_self with ⟨hit, hmem, hstart, _⟩
            rcases List.mem_cons.mp hmem with rfl | hmem
            · exact hstart
            · have hbefore := hordered'.1 hit hmem
              omega
          have hge : first.start ≤ first'.start := by
            rcases hcovers' first' List.mem_cons_self with ⟨hit, hmem, hstart, _⟩
            rcases List.mem_cons.mp hmem with rfl | hmem
            · exact hstart
            · have hbefore := hordered.1 hit hmem
              omega
          have hfirst : first = first' := hsame first List.mem_cons_self first' List.mem_cons_self
            (Nat.le_antisymm hge hle)
          subst hfirst
          -- What comes later begins behind the first one, which cannot cover it.
          have hlater : ∀ tag ∈ found, ∃ hit ∈ other, hit.start ≤ tag.start ∧
              tag.start < hit.start + byteLength hit.text := by
            intro tag htag
            rcases hcovers tag (List.mem_cons_of_mem _ htag) with ⟨hit, hmem, hstart, hstop⟩
            rcases List.mem_cons.mp hmem with rfl | hmem
            · have hbehind := hordered.1 tag htag
              omega
            · exact ⟨hit, hmem, hstart, hstop⟩
          have hlater' : ∀ tag ∈ other, ∃ hit ∈ found, hit.start ≤ tag.start ∧
              tag.start < hit.start + byteLength hit.text := by
            intro tag htag
            rcases hcovers' tag (List.mem_cons_of_mem _ htag) with ⟨hit, hmem, hstart, hstop⟩
            rcases List.mem_cons.mp hmem with rfl | hmem
            · have hbehind := hordered'.1 tag htag
              omega
            · exact ⟨hit, hmem, hstart, hstop⟩
          rw [ih hordered.2 hordered'.2 hlater hlater' fun tag htag tag' htag' =>
            hsame tag (List.mem_cons_of_mem _ htag) tag' (List.mem_cons_of_mem _ htag')]

/-- Only one list of tags leaves none out. -/
theorem FindsTags.unique {text : List Char} {found other : List FoundTag}
    (h : FindsTags text found) (h' : FindsTags text other) : found = other :=
  eq_of_covers h.ordered h'.ordered (fun _ hmem => h.exists_covers h' hmem)
    (fun _ hmem => h'.exists_covers h hmem)
    fun _ hmem _ hmem' hstart => h.eq_of_start_eq h' hmem hmem' hstart

/-- The tags of a line are those of the grammar. Their texts are the parts of the stripped line
    that a search has to find which leaves no tag out, and there is only one way to leave none
    out. At a place of the line at most one tag begins, and it ends at the first `>` behind. -/
theorem tags_of_grammar (line : List Char) (offset : Nat) :
    (∃ found, FindsTags (StrippedLine.ofText line).text found ∧
      ((StrippedLine.ofText line).tags offset).map Tag.text = found.map FoundTag.text ∧
      ∀ other, FindsTags (StrippedLine.ofText line).text other → other = found) ∧
    (∀ before tag after tag' after', (StrippedLine.ofText line).text = before ++ tag ++ after →
      (StrippedLine.ofText line).text = before ++ tag' ++ after' → IsTagText tag →
        IsTagText tag' → tag = tag') ∧
    ∀ tag, IsTagText tag → ∃ body, tag = '<' :: (body ++ ['>']) ∧ '>' ∉ body := by
  have hfinds := findsTags_foundTags (StrippedLine.ofText line).text
  refine ⟨⟨_, hfinds, ?_, fun other hother => hother.unique hfinds⟩, ?_,
    fun tag htag => htag.exists_append⟩
  · rw [StrippedLine.tags, List.map_map]
    rfl
  · intro before tag after tag' after' htext htext' htag htag'
    rw [htext, List.append_assoc, List.append_assoc] at htext'
    exact isTagText_prefix_unique htag htag' (List.append_cancel_left htext')

/-- A comparison, a tag that is cut short and one more, with a comment between them that holds a
    `>`: they are one tag, and the others cannot begin inside it. -/
theorem tags_of_grammar_comparison :
    IsTagText "<1 <a <b>".toList ∧
      ((StrippedLine.ofText "x<1 <a{/*>*/} <b></c>".toList).tags 0).map Tag.text
        = ["<1 <a <b>".toList, "</c>".toList] ∧
      ∀ tag after, "x<1 <a <b></c>".toList = ['x'] ++ tag ++ after → IsTagText tag →
        tag = "<1 <a <b>".toList := by
  have hname : ∀ c ∈ ['1'], isNameChar c = true := List.forall_mem_singleton.mpr (by decide +kernel)
  have hblank : ∀ c ∈ [' '], isBlank c = true := List.forall_mem_singleton.mpr (by decide +kernel)
  have hgrammar : IsTagText "<1 <a <b>".toList :=
    ⟨[], ['1'], " <a <b".toList, [], rfl, Or.inl rfl, ⟨List.cons_ne_nil _ _, hname⟩,
      Or.inr ⟨[' '], "<a <b".toList, rfl, List.cons_ne_nil _ _, hblank, by decide⟩, Or.inl rfl⟩
  have htext : (StrippedLine.ofText "x<1 <a{/*>*/} <b></c>".toList).text
      = "x<1 <a <b></c>".toList := by decide +kernel
  rcases tags_of_grammar "x<1 <a{/*>*/} <b></c>".toList 0 with
    ⟨⟨found, _, htexts, honly⟩, hunique, _⟩
  refine ⟨hgrammar, ?_, ?_⟩
  · rw [htexts, ← honly _ (findsTags_foundTags _), htext]
    decide +kernel
  · intro tag after hsplit htag
    exact hunique ['x'] tag after _ "</c>".toList (htext.trans hsplit) htext htag hgrammar

end TagNesting
