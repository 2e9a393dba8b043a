import TagNesting.Proofs.FoundTag
import TagNesting.Proofs.Pieces
import TagNesting.Proofs.StrippedLine

/-!
# Tag Names

What the names of the tags of a source are made of. The name of an opening tag is read off
its text as the first word less a few characters, but the search for tags has already seen
to it that this word is a run of name characters with nothing behind it than the end of the
tag. So it is that run, and nothing is taken out of it.

The name of a closing tag goes on to the end of the tag and can hold almost anything: quotes,
slashes, a `<`. What it never holds is a `>`, and a line end, since no line does.

## Main definitions

* `IsOpeningName`: A name that an opening tag can have.
* `IsClosingName`: A name that a closing tag can have.

## Theorems

* `isNameChar_of_isBlank`: Names and blanks have no character in common.
* `TagParts.openingName_eq`: The name of an opening tag.
* `isOpeningName_of_mem_sourceTags`, `isClosingName_of_mem_sourceTags`: The names of tags.
-/

namespace TagNesting

/-- A name that an opening tag can have: at least one character, and name characters only. -/
def IsOpeningName (name : List Char) : Prop :=
  name ≠ [] ∧ ∀ c ∈ name, isNameChar c = true

/-- A name that a closing tag can have: no `>` in it, and no line end. -/
def IsClosingName (name : List Char) : Prop := '>' ∉ name ∧ Unbroken name

/-- The code points of the blanks. -/
def blankPoints : List Nat :=
  [0x9, 0xA, 0xB, 0xC, 0xD, 0x1C, 0x1D, 0x1E, 0x1F, 0x20, 0x85, 0xA0, 0x1680, 0x2000, 0x2001,
    0x2002, 0x2003, 0x2004, 0x2005, 0x2006, 0x2007, 0x2008, 0x2009, 0x200A, 0x2028, 0x2029,
    0x202F, 0x205F, 0x3000]

/-- The blanks are the characters with these code points. -/
theorem mem_blankPoints {c : Char} (h : isBlank c = true) : c.toNat ∈ blankPoints := by
  simp only [isBlank, isWhiteSpace, Bool.or_eq_true, Bool.and_eq_true, decide_eq_true_eq,
    beq_iff_eq] at h
  simp only [blankPoints, List.mem_cons, List.not_mem_nil, or_false]
  omega

-- No name character is a blank. There are few blanks, and each is looked up.
theorem isNameChar_of_isBlank {c : Char} (h : isBlank c = true) : isNameChar c = false := by
  have htable : ∀ n ∈ blankPoints, isNameChar (Char.ofNat n) = false := by decide +kernel
  have hc := htable c.toNat (mem_blankPoints h)
  rwa [Char.ofNat_toNat] at hc

/-- A character of a name is no blank. -/
theorem isBlank_of_isNameChar {c : Char} (h : isNameChar c = true) : isBlank c = false := by
  rw [Bool.eq_false_iff]
  intro hblank
  rw [isNameChar_of_isBlank hblank] at h
  exact Bool.false_ne_true h

/-- An opening name holds nothing but characters of names. -/
theorem IsOpeningName.notMem {name : List Char} (h : IsOpeningName name) {c : Char}
    (hc : isNameChar c = false) : c ∉ name := by
  intro hmem
  rw [h.2 c hmem] at hc
  exact Bool.false_ne_true hc.symm

theorem IsOpeningName.unbroken {name : List Char} (h : IsOpeningName name) : Unbroken name :=
  unbroken_iff.mpr ⟨h.notMem (by decide), h.notMem (by decide)⟩

/-- What is behind a byte is the end of the text. -/
theorem fromByte_suffix (n : Nat) (text : List Char) : fromByte n text <:+ text := by
  have hsome : ∀ {n : Nat} {cs rest : List Char}, fromByte? n cs = some rest → rest <:+ cs := by
    intro n cs rest h
    fun_induction fromByte? n cs with
    | case1 cs => exact Option.some.inj h ▸ List.suffix_rfl
    | case2 => cases h
    | case3 n c cs _ ih => exact (ih h).trans (List.suffix_cons c cs)
    | case4 => cases h
  rw [fromByte]
  cases h : fromByte? n text with
  | none => exact List.nil_suffix
  | some rest => exact hsome h

theorem fromByte_one_cons {c : Char} (hsize : c.utf8Size = 1) (rest : List Char) :
    fromByte 1 (c :: rest) = rest := by
  rw [fromByte, fromByte?, if_pos (Nat.le_of_eq hsize), hsize, fromByte?]
  rfl

/-- Trimming brings no character in. -/
theorem mem_of_mem_trimBy {p : Char → Bool} {text : List Char} {c : Char}
    (h : c ∈ trimBy p text) : c ∈ text := by
  rw [trimBy, trimEndBy, List.mem_reverse] at h
  have hdrop := (List.dropWhile_suffix _).subset h
  rw [List.mem_reverse] at hdrop
  exact (List.dropWhile_suffix _).subset hdrop

-- The name of a closing tag is made of characters of the tag, and none of them is a `>`.
theorem mem_closingName {text : List Char} {c : Char} (h : c ∈ Tag.closingName text) :
    c ∈ text ∧ c ≠ '>' := by
  rcases List.mem_filter.mp (mem_of_mem_trimBy h) with ⟨hmem, hkept⟩
  refine ⟨(fromByte_suffix 2 text).subset hmem, ?_⟩
  rintro rfl
  exact absurd hkept (by decide)

namespace TagParts

variable {text slash name tail : List Char}

/-- The name of a tag begins with a character of names. -/
theorem exists_cons (h : TagParts text slash name tail) :
    ∃ c rest, name = c :: rest ∧ isNameChar c = true := by
  rcases List.exists_cons_of_ne_nil h.name_ne with ⟨c, rest, rfl⟩
  exact ⟨c, rest, rfl, h.isNameChar_name c List.mem_cons_self⟩

-- A tag begins like a closing one if it has a slash before its name: the name has none.
theorem beginsClosing_eq (h : TagParts text slash name tail) :
    Tag.beginsClosing text = !slash.isEmpty := by
  rcases h.exists_cons with ⟨c, rest, hname, hc⟩
  rw [h.text_eq, hname]
  rcases h.slash_cases with rfl | rfl
  · have hne : ('/' == c) = false := by
      rw [beq_eq_false_iff_ne]
      rintro rfl
      exact absurd hc (by decide)
    change ('<' == '<' && ('/' == c && true)) = false
    rw [hne, Bool.false_and, Bool.and_false]
  · rfl

-- Nothing but name characters is in a name, so nothing else can be taken out of it.
theorem filter_name (h : TagParts text slash name tail) {c d : Char}
    (hc : isNameChar c = false) (hd : isNameChar d = false) :
    name.filter (fun e => e != c && e != d) = name := by
  refine List.filter_eq_self.mpr fun e he => ?_
  have hnamed := h.isNameChar_name e he
  rw [Bool.and_eq_true, bne_iff_ne, bne_iff_ne]
  constructor
  · rintro rfl
    exact absurd hnamed (by rw [hc]; exact Bool.false_ne_true)
  · rintro rfl
    exact absurd hnamed (by rw [hd]; exact Bool.false_ne_true)

/-- So no blank stands at its front. -/
theorem dropWhile_name_append (h : TagParts text slash name tail) (rest : List Char) :
    (name ++ rest).dropWhile isBlank = name ++ rest := by
  rcases h.exists_cons with ⟨c, more, hname, hc⟩
  rw [hname, List.cons_append, List.dropWhile_cons_of_neg]
  rw [isBlank_of_isNameChar hc]
  exact Bool.false_ne_true

/-- The name of an opening tag is the run of name characters behind the `<`. -/
theorem openingName_eq (h : TagParts text [] name tail) : Tag.openingName text = name := by
  have hfrom : fromByte 1 text = name ++ tail := by
    rw [h.text_eq, fromByte_one_cons (by decide), List.nil_append]
  have htake : (name ++ tail).takeWhile (!isBlank ·) = name ++ tail.takeWhile (!isBlank ·) :=
    List.takeWhile_append_of_pos fun d hd => by
      rw [isBlank_of_isNameChar (h.isNameChar_name d hd)]
      rfl
  -- What the word has behind the name is the end of the tag, and that is taken out of it.
  have hdropped : (tail.takeWhile (!isBlank ·)).filter (fun d => d != '>' && d != '/') = [] := by
    cases h.tail_ends with
    | close => decide
    | slash => decide
    | blank hblank _ =>
        rw [List.takeWhile_cons_of_neg]
        · rfl
        · rw [hblank]
          exact Bool.false_ne_true
  rw [Tag.openingName, hfrom, h.dropWhile_name_append, htake, List.filter_append,
    h.filter_name (by decide) (by decide), hdropped, List.append_nil]

end TagParts

-- A tag is a closing one if it begins like one, and it is an opening one only if it does not.
theorem beginsClosing_of_kindOf_eq_closing {text : List Char}
    (h : Tag.kindOf text = .closing) : Tag.beginsClosing text = true := by
  rw [Tag.kindOf] at h
  split at h
  · cases h
  · split at h
    · assumption
    · cases h

theorem beginsClosing_of_kindOf_eq_opening {text : List Char}
    (h : Tag.kindOf text = .opening) : Tag.beginsClosing text = false := by
  rw [Tag.kindOf] at h
  split at h
  · cases h
  · split at h
    · cases h
    · rename_i hbegins
      exact Bool.eq_false_iff.mpr hbegins

-- The text of a tag of a source, which is a tag and all of whose characters are on one line.
theorem exists_parts_of_mem_sourceTags {source : List Char} {placed : PlacedTag}
    (h : placed ∈ sourceTags source) :
    ∃ text span, placed.tag = Tag.ofText text span ∧ Unbroken text ∧
      ∃ slash name tail, TagParts text slash name tail := by
  rcases List.mem_flatMap.mp h with ⟨line, hline, hplaced⟩
  rcases List.mem_map.mp hplaced with ⟨tag, htag, rfl⟩
  rcases List.mem_map.mp htag with ⟨found, hfound, rfl⟩
  refine ⟨found.text, _, rfl, ?_, exists_parts_of_mem_foundTags hfound⟩
  rcases exists_append_of_mem_foundTags hfound with ⟨before, _, after, htext, _⟩
  intro c hc
  refine unbroken_of_mem_sourceLines hline c (mem_of_mem_ofText ?_)
  rw [htext]
  exact List.mem_append_left _ (List.mem_append_right _ hc)

/-- The name of an opening tag of a source. -/
theorem isOpeningName_of_mem_sourceTags {source : List Char} {placed : PlacedTag}
    (h : placed ∈ sourceTags source) (hkind : placed.tag.kind = .opening) :
    IsOpeningName placed.tag.name := by
  rcases exists_parts_of_mem_sourceTags h with ⟨text, span, htag, _, slash, name, tail, hparts⟩
  rw [htag] at hkind ⊢
  have hbegins := beginsClosing_of_kindOf_eq_opening hkind
  -- It does not begin like a closing tag, so its name follows the `<` at once.
  have hslash : slash = [] := by
    rw [hparts.beginsClosing_eq, Bool.not_eq_false', List.isEmpty_iff] at hbegins
    exact hbegins
  subst hslash
  have hname : (Tag.ofText text span).name = name := by
    rw [Tag.ofText, hbegins]
    exact hparts.openingName_eq
  rw [hname]
  exact ⟨hparts.name_ne, hparts.isNameChar_name⟩

/-- The name of a closing tag of a source. -/
theorem isClosingName_of_mem_sourceTags {source : List Char} {placed : PlacedTag}
    (h : placed ∈ sourceTags source) (hkind : placed.tag.kind = .closing) :
    IsClosingName placed.tag.name := by
  rcases exists_parts_of_mem_sourceTags h with ⟨text, span, htag, hunbroken, _⟩
  rw [htag] at hkind ⊢
  have hname : (Tag.ofText text span).name = Tag.closingName text := by
    rw [Tag.ofText, beginsClosing_of_kindOf_eq_closing hkind]
    rfl
  rw [hname]
  exact ⟨fun hmem => (mem_closingName hmem).2 rfl,
    fun c hc => hunbroken c (mem_closingName hc).1⟩

end TagNesting
