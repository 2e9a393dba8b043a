import Mathlib.Data.List.Infix
import Mathlib.Data.List.TakeWhile
import TagNesting.Markup.Tag

/-!
# Found Tags

What the search for tags finds in a text. A tag has a `<`, perhaps a slash, a name, and
what may follow a name. Only the last of these can hold a `>` and it ends with its first,
so a tag runs from a `<` to the first `>` behind it: its length says where that `>` stands
and its text begins and ends with the two.

`Scans` follows the search through a text, one character or one tag at a time. Every tag
that is found is a part of the text at the byte it is said to stand at, and the next one
stands behind its end.

## Main definitions

* `TagTail`: What may follow the name of a tag.
* `TagParts`: The parts of a tag's text.
* `Scans`: The search for tags, step by step.

## Theorems

* `exists_parts_of_tagLength?`, `exists_parts_of_mem_foundTags`: A tag has all its parts.
* `tagLength?_eq_some`: A tag runs from a `<` to the first `>`.
* `scans_foundTagsFrom`: The tags of a text are what the search finds.
* `exists_append_of_mem_foundTags`: Where a found tag stands.
* `pairwise_foundTags`: Found tags follow each other without overlap.
-/

namespace TagNesting

/-- What may follow the name of a tag: its end, a slash and its end, or a blank and anything that
    comes before the first `>`. -/
inductive TagTail : List Char → Prop where
  /-- The end. -/
  | close : TagTail ['>']
  /-- A slash and the end. -/
  | slash : TagTail ['/', '>']
  /-- A blank, anything but a `>`, and the end. -/
  | blank {c : Char} {body : List Char} (hblank : isBlank c = true) (hbody : '>' ∉ body) :
      TagTail (c :: (body ++ ['>']))

/-- The parts of a tag's text: a `<`, the slash of a closing tag, a name, and what follows it. -/
structure TagParts (text slash name tail : List Char) : Prop where
  /-- The parts make up the text. -/
  text_eq : text = '<' :: (slash ++ name ++ tail)
  /-- There is a slash before the name or there is none. -/
  slash_cases : slash = [] ∨ slash = ['/']
  /-- There is a name. -/
  name_ne : name ≠ []
  /-- It is made of name characters. -/
  isNameChar_name : ∀ c ∈ name, isNameChar c = true
  /-- The tag ends behind it. -/
  tail_ends : TagTail tail

theorem TagTail.exists_append {tail : List Char} (h : TagTail tail) :
    ∃ body, tail = body ++ ['>'] ∧ '>' ∉ body := by
  cases h with
  | close => exact ⟨[], rfl, List.not_mem_nil⟩
  | slash => exact ⟨['/'], rfl, by decide⟩
  | @blank c body hblank hbody =>
      refine ⟨c :: body, rfl, ?_⟩
      rw [List.mem_cons, not_or]
      refine ⟨?_, hbody⟩
      rintro rfl
      exact absurd hblank (by decide)

/-- What follows a name ends with the first `>`. -/
theorem tagTailLength?_eq_some {text : List Char} {length : Nat}
    (h : tagTailLength? text = some length) :
    ∃ tail rest, text = tail ++ rest ∧ TagTail tail ∧ length = tail.length := by
  rw [tagTailLength?.eq_def] at h
  split at h
  · rename_i rest
    exact ⟨['>'], rest, rfl, .close, (Option.some.inj h).symm⟩
  · rename_i rest
    exact ⟨['/', '>'], rest, rfl, .slash, (Option.some.inj h).symm⟩
  · rename_i c rest _ _
    by_cases hc : (isBlank c && rest.contains '>') = true
    · rw [if_pos hc] at h
      rw [Bool.and_eq_true] at hc
      have hbefore : '>' ∉ rest.takeWhile (· != '>') := fun hmem =>
        absurd (List.mem_takeWhile_imp hmem) (by decide)
      -- The rest holds a `>`, so what follows its part before that begins with one.
      have hsplit := List.takeWhile_append_dropWhile (p := (· != '>')) (l := rest)
      cases hdrop : rest.dropWhile (· != '>') with
      | nil =>
          rw [hdrop, List.append_nil] at hsplit
          rw [hsplit] at hbefore
          exact absurd (List.contains_iff_mem.mp hc.2) hbefore
      | cons d more =>
          have hd := List.head?_dropWhile_not (· != '>') rest
          rw [hdrop, List.head?_cons] at hd
          have hd' : d = '>' := by simpa using hd
          rw [hdrop, hd'] at hsplit
          refine ⟨c :: (rest.takeWhile (· != '>') ++ ['>']), more, ?_, .blank hc.1 hbefore, ?_⟩
          · rw [List.cons_append, List.append_assoc, List.singleton_append, hsplit]
          · rw [List.length_cons, List.length_append, List.length_singleton]
            exact (Option.some.inj h).symm
    · rw [if_neg hc] at h
      exact absurd h (by simp only [reduceCtorEq, not_false_eq_true])
  · exact absurd h (by simp only [reduceCtorEq, not_false_eq_true])

/-- A tag has all its parts, and nothing else. -/
theorem exists_parts_of_tagLength? {text : List Char} {length : Nat}
    (h : tagLength? text = some length) :
    ∃ tag rest slash name tail, text = tag ++ rest ∧ TagParts tag slash name tail ∧
      length = tag.length := by
  rw [tagLength?.eq_def] at h
  split at h
  · rename_i rest
    have hslash : ∃ slash named, rest = slash ++ named ∧ (slash = [] ∨ slash = ['/']) ∧
        (if ['/'].isPrefixOf rest = true then 1 else 0) = slash.length := by
      by_cases hprefix : ['/'].isPrefixOf rest = true
      · rw [if_pos hprefix]
        rcases List.isPrefixOf_iff_prefix.mp hprefix with ⟨named, rfl⟩
        exact ⟨['/'], named, rfl, Or.inr rfl, rfl⟩
      · rw [if_neg hprefix]
        exact ⟨[], rest, rfl, Or.inl rfl, rfl⟩
    rcases hslash with ⟨slash, named, rfl, hcases, hlength⟩
    simp only [hlength, ← List.drop_drop, List.drop_left] at h
    by_cases hempty : (named.takeWhile isNameChar).isEmpty = true
    · rw [if_pos hempty] at h
      exact absurd h (by simp only [reduceCtorEq, not_false_eq_true])
    · rw [if_neg hempty, Option.map_eq_some_iff] at h
      rcases h with ⟨size, hsize, rfl⟩
      rcases tagTailLength?_eq_some hsize with ⟨tail, more, htail, hends, rfl⟩
      -- What follows the slash falls into the name and the tail, which ends the tag.
      have hname : named = named.takeWhile isNameChar ++ (tail ++ more) := by
        rw [← htail]
        exact (List.prefix_iff_eq_append.mp (List.takeWhile_prefix isNameChar)).symm
      refine ⟨'<' :: (slash ++ named.takeWhile isNameChar ++ tail), more, slash, _, tail, ?_,
        ⟨rfl, hcases, ?_, fun c hc => List.mem_takeWhile_imp hc, hends⟩, ?_⟩
      · simp only [List.cons_append, List.append_assoc]
        rw [← hname]
      · exact fun hnil => hempty (List.isEmpty_iff.mpr hnil)
      · simp only [List.length_cons, List.length_append]
        omega
  · exact absurd h (by simp only [reduceCtorEq, not_false_eq_true])

/-- A tag runs from a `<` to the first `>` behind it: neither the slash before its name nor the
    name holds one, and what follows the name ends with the first. -/
theorem TagParts.exists_append {text slash name tail : List Char}
    (h : TagParts text slash name tail) : ∃ body, text = '<' :: (body ++ ['>']) ∧ '>' ∉ body := by
  rcases h.tail_ends.exists_append with ⟨body, hbody, hnot⟩
  refine ⟨slash ++ name ++ body, ?_, ?_⟩
  · rw [h.text_eq, hbody]
    simp only [List.append_assoc]
  · rw [List.mem_append, List.mem_append, not_or, not_or]
    refine ⟨⟨?_, fun hmem => absurd (h.isNameChar_name _ hmem) (by decide)⟩, hnot⟩
    rcases h.slash_cases with rfl | rfl
    · exact List.not_mem_nil
    · decide

theorem tagLength?_eq_some {text : List Char} {length : Nat}
    (h : tagLength? text = some length) :
    ∃ body rest, text = '<' :: (body ++ ['>']) ++ rest ∧ '>' ∉ body ∧
      length = ('<' :: (body ++ ['>'])).length := by
  rcases exists_parts_of_tagLength? h with ⟨tag, rest, _, _, _, htext, hparts, hlength⟩
  rcases hparts.exists_append with ⟨body, rfl, hbody⟩
  exact ⟨body, rest, htext, hbody, hlength⟩

/-- The search for tags in a text that stands at byte `position`: a character at which no tag
    begins is passed over, and behind a tag the search goes on. -/
inductive Scans : Nat → List Char → List FoundTag → Prop where
  /-- The end of the text. -/
  | done (position : Nat) : Scans position [] []
  /-- A character at which no tag begins. -/
  | skip {position : Nat} {c : Char} {rest : List Char} {found : List FoundTag}
      (hnone : tagLength? (c :: rest) = none) (hrest : Scans (position + c.utf8Size) rest found) :
      Scans position (c :: rest) found
  /-- A tag. -/
  | tag {position : Nat} {tag rest : List Char} {found : List FoundTag}
      (htag : tagLength? (tag ++ rest) = some tag.length)
      (hrest : Scans (position + byteLength tag) rest found) :
      Scans position (tag ++ rest) (⟨position, tag⟩ :: found)

/-- The tags of a text are what the search finds behind the characters it skips. -/
theorem scans_foundTagsFrom (skip position : Nat) (text : List Char) :
    Scans (position + byteLength (text.take skip)) (text.drop skip)
      (foundTagsFrom skip position text) := by
  fun_induction foundTagsFrom skip position text with
  | case1 skip position =>
      rw [List.take_nil, List.drop_nil]
      exact Scans.done position
  | case2 skip position c rest ih =>
      rw [List.take_succ_cons, List.drop_succ_cons, byteLength_cons, ← Nat.add_assoc]
      exact ih
  | case3 position c rest length hlength ih =>
      rcases tagLength?_eq_some hlength with ⟨body, more, htext, _, rfl⟩
      -- The tag is what is taken from the text, and the search skips its characters but the
      -- first, so it goes on behind the tag.
      rw [List.cons_append, List.cons.injEq] at htext
      rcases htext with ⟨rfl, rfl⟩
      rw [← List.cons_append] at hlength
      rw [List.length_cons, Nat.add_sub_cancel, List.take_left, List.drop_left, Nat.add_assoc,
        ← byteLength_cons] at ih
      rw [List.take_zero, List.drop_zero, byteLength_nil, Nat.add_zero, ← List.cons_append,
        List.take_left, List.length_cons, Nat.add_sub_cancel]
      exact Scans.tag hlength ih
  | case4 position c rest hnone ih =>
      rw [List.take_zero, List.drop_zero, byteLength_nil, Nat.add_zero] at ih ⊢
      exact Scans.skip hnone ih

theorem Scans.exists_append {position : Nat} {text : List Char} {found : List FoundTag}
    (h : Scans position text found) {tag : FoundTag} (hmem : tag ∈ found) :
    ∃ before after, text = before ++ tag.text ++ after ∧
      tag.start = position + byteLength before ∧
      tagLength? (tag.text ++ after) = some tag.text.length := by
  induction h with
  | done => exact absurd hmem List.not_mem_nil
  | @skip position c rest found _ _ ih =>
      rcases ih hmem with ⟨before, after, htext, hstart, hlength⟩
      refine ⟨c :: before, after, by rw [htext]; rfl, ?_, hlength⟩
      rw [hstart, byteLength_cons, Nat.add_assoc]
  | @tag position text rest found htag _ ih =>
      rcases List.mem_cons.mp hmem with rfl | hmem
      · exact ⟨[], rest, rfl, rfl, htag⟩
      · rcases ih hmem with ⟨before, after, htext, hstart, hlength⟩
        refine ⟨text ++ before, after, by rw [htext]; simp only [List.append_assoc], ?_, hlength⟩
        rw [hstart, byteLength_append, Nat.add_assoc]

theorem Scans.pairwise {position : Nat} {text : List Char} {found : List FoundTag}
    (h : Scans position text found) :
    found.Pairwise fun tag next => tag.start + byteLength tag.text ≤ next.start := by
  induction h with
  | done => exact List.Pairwise.nil
  | skip _ _ ih => exact ih
  | tag _ hrest ih =>
      -- A later tag is found in the text that stands behind this one.
      refine List.pairwise_cons.mpr ⟨fun next hmem => ?_, ih⟩
      rcases hrest.exists_append hmem with ⟨before, _, _, hstart, _⟩
      rw [hstart]
      exact Nat.le_add_right _ _

theorem scans_foundTags (text : List Char) : Scans 0 text (foundTags text) := by
  have h := scans_foundTagsFrom 0 0 text
  rwa [List.take_zero, List.drop_zero, byteLength_nil, Nat.add_zero] at h

/-- A found tag is a part of the text, from a `<` to the first `>`. -/
theorem exists_append_of_mem_foundTags {text : List Char} {tag : FoundTag}
    (h : tag ∈ foundTags text) :
    ∃ before body after, text = before ++ tag.text ++ after ∧
      tag.start = byteLength before ∧ tag.text = '<' :: (body ++ ['>']) ∧ '>' ∉ body := by
  rcases (scans_foundTags text).exists_append h with ⟨before, after, htext, hstart, hlength⟩
  rcases tagLength?_eq_some hlength with ⟨body, more, hsplit, hbody, hlength⟩
  refine ⟨before, body, after, htext, by rw [hstart, Nat.zero_add], ?_, hbody⟩
  exact (List.append_inj hsplit hlength).1

/-- A found tag has a name and an end. -/
theorem exists_parts_of_mem_foundTags {text : List Char} {tag : FoundTag}
    (h : tag ∈ foundTags text) : ∃ slash name tail, TagParts tag.text slash name tail := by
  rcases (scans_foundTags text).exists_append h with ⟨before, after, _, _, hlength⟩
  rcases exists_parts_of_tagLength? hlength with
    ⟨found, rest, slash, name, tail, hsplit, hparts, hlength⟩
  rw [← (List.append_inj hsplit hlength).1] at hparts
  exact ⟨slash, name, tail, hparts⟩

/-- Found tags follow each other without overlap. -/
theorem pairwise_foundTags (text : List Char) :
    (foundTags text).Pairwise fun tag next => tag.start + byteLength tag.text ≤ next.start :=
  (scans_foundTags text).pairwise

end TagNesting
