import TagNesting.Proofs.TagGrammar

/-!
# Named Tags

A tag and the name it bears, whichever way the tag is written. The name of an opening tag
is its first word less a few characters, that of a closing tag is all of it less a few
others, and a check compares the two. They agree wherever a name is written the plain way:
with nothing but blanks behind it in the closing tag, and with anything behind a blank in
the opening one.

In any other closing tag the name is longer. What follows the word comes in with it, less
the spaces, so the name still begins with the word and still holds no space and no `>`.

## Main definitions

* `Spells`: A text spells a tag of a kind, with a name.

## Theorems

* `TagParts.closingName_eq`: The name of a closing tag.
* `kindOf_append_end`, `kindOf_append_slash`: The kind of a tag, from its end.
* `TagParts.word_eq`: The first word of a tag.
* `tag_names`: Tags and their names.
-/

namespace TagNesting

/-- A text spells a tag of the given kind and name, wherever it stands. -/
def Spells (text : List Char) (kind : TagKind) (name : List Char) : Prop :=
  ∀ span, (Tag.ofText text span).kind = kind ∧ (Tag.ofText text span).name = name

/-! ## Closing names -/

-- Nothing is dropped where no character is one to drop.
theorem dropWhile_eq_self_of_forall {p : Char → Bool} {text : List Char}
    (h : ∀ c ∈ text, p c = false) : text.dropWhile p = text := by
  cases text with
  | nil => rfl
  | cons c text =>
      rw [List.dropWhile_cons_of_neg]
      rw [h c List.mem_cons_self]
      exact Bool.false_ne_true

-- Trimming the end of a text stops at a word in it.
theorem trimEndBy_append {p : Char → Bool} {word : List Char} (h : ∀ c ∈ word, p c = false)
    (rest : List Char) : trimEndBy p (word ++ rest) = word ++ trimEndBy p rest := by
  have hword : word.reverse.dropWhile p = word.reverse :=
    dropWhile_eq_self_of_forall fun c hc => h c (List.mem_reverse.mp hc)
  rw [trimEndBy, trimEndBy, List.reverse_append, List.dropWhile_append, hword]
  by_cases hempty : (rest.reverse.dropWhile p).isEmpty = true
  · rw [if_pos hempty, List.isEmpty_iff.mp hempty, List.reverse_reverse, List.reverse_nil,
      List.append_nil]
  · rw [if_neg hempty, List.reverse_append, List.reverse_reverse]

-- Nothing is left where every character is one to trim.
theorem trimEndBy_eq_nil {p : Char → Bool} {text : List Char} (h : ∀ c ∈ text, p c = true) :
    trimEndBy p text = [] := by
  rw [trimEndBy, List.dropWhile_eq_nil_iff.mpr fun c hc => h c (List.mem_reverse.mp hc),
    List.reverse_nil]

namespace TagParts

variable {text slash name tail : List Char}

/-- The name of a closing tag is the run of name characters behind the slash, and what follows it
    less the spaces and what ends the tag. -/
theorem closingName_eq (h : TagParts text ['/'] name tail) :
    Tag.closingName text
      = name ++ trimEndBy isBlank (tail.filter fun c => c != '>' && c != ' ') := by
  have hfrom : fromByte 2 text = name ++ tail := by
    have hsize : ('<' : Char).utf8Size = 1 ∧ ('/' : Char).utf8Size = 1 := by decide
    simp [h.text_eq, fromByte, fromByte?, hsize]
  rw [Tag.closingName, hfrom, List.filter_append, h.filter_name (by decide) (by decide), trimBy,
    h.dropWhile_name_append, trimEndBy_append]
  exact fun c hc => isBlank_of_isNameChar (h.isNameChar_name c hc)

/-- The first word of a tag is its name part: a character that no name has comes behind it. -/
theorem word_eq (h : TagParts text slash name tail) :
    (text.drop (1 + slash.length)).takeWhile isNameChar = name := by
  rcases h.tail_ends.exists_cons with ⟨c, rest, htail, hc⟩
  rw [h.text_eq, Nat.add_comm, List.drop_succ_cons, List.append_assoc, List.drop_left,
    List.takeWhile_append_of_pos h.isNameChar_name, htail, List.takeWhile_cons_of_neg,
    List.append_nil]
  rw [hc]
  exact Bool.false_ne_true

/-- The slash before the name is there just where the text begins as a closing tag does. -/
theorem slash_eq_iff (h : TagParts text slash name tail) :
    slash = ['/'] ↔ ['<', '/'] <+: text := by
  rw [← List.isPrefixOf_iff_prefix]
  change _ ↔ Tag.beginsClosing text = true
  rw [h.beginsClosing_eq]
  rcases h.slash_cases with rfl | rfl
  · decide
  · decide

end TagParts

/-! ## Kinds -/

/-- What ends in a slash closes itself, even if it begins as a closing tag does. -/
theorem kindOf_append_slash (front : List Char) :
    Tag.kindOf (front ++ ['/', '>']) = .selfClosing := by
  rw [Tag.kindOf, if_pos]
  exact List.isSuffixOf_iff_suffix.mpr (List.suffix_append _ _)

/-- Without a slash before its end a tag opens or closes, as its front says. -/
theorem kindOf_append_end {text front : List Char} (htext : text = front ++ ['>'])
    (hlast : front.getLast? ≠ some '/') :
    Tag.kindOf text = if Tag.beginsClosing text = true then .closing else .opening := by
  rw [Tag.kindOf, if_neg]
  rw [List.isSuffixOf_iff_suffix]
  rintro ⟨before, hbefore⟩
  have hfront : before ++ ['/'] ++ ['>'] = front ++ ['>'] := by
    rw [← htext, ← hbefore, List.append_assoc]
    rfl
  rw [← List.append_cancel_right hfront, List.getLast?_concat] at hlast
  exact hlast rfl

-- Behind a name stands no slash, unless what follows it ends in one.
theorem getLast?_ne_slash {name rest : List Char} (hname : IsOpeningName name)
    (hrest : rest.getLast? ≠ some '/') (front : List Char) :
    (front ++ (name ++ rest)).getLast? ≠ some '/' := by
  intro hlast
  cases rest with
  | nil =>
      rw [List.append_nil, List.getLast?_append_of_ne_nil _ hname.1] at hlast
      exact absurd (hname.2 _ (List.mem_of_getLast? hlast)) (by decide)
  | cons c rest =>
      rw [← List.append_assoc, List.getLast?_append_of_ne_nil _ (List.cons_ne_nil _ _)] at hlast
      exact hrest hlast

/-! ## Tags as they are written -/

-- An opening tag has the parts it is written with.
theorem tagParts_of_attributes {name attributes ending : List Char} (hname : IsOpeningName name)
    (hend : '>' ∉ attributes) (hblank : ∀ c ∈ attributes.head?, isBlank c = true)
    (hending : ending = [] ∨ ending = ['/']) :
    TagParts ('<' :: (name ++ attributes ++ (ending ++ ['>']))) [] name
      (attributes ++ ending ++ ['>']) where
  text_eq := by simp only [List.nil_append, List.append_assoc]
  slash_cases := Or.inl rfl
  name_ne := hname.1
  isNameChar_name := hname.2
  tail_ends := by
    refine .of_attributes ?_ hending
    cases attributes with
    | nil => exact Or.inl rfl
    | cons c rest =>
        rw [List.mem_cons, not_or] at hend
        refine Or.inr ⟨[c], rest, rfl, List.cons_ne_nil _ _, fun d hd => ?_, hend.2⟩
        rw [List.mem_singleton.mp hd]
        exact hblank c rfl

/-- An opening tag has the name that is written, with anything behind a blank. -/
theorem spells_opening {name attributes : List Char} (hname : IsOpeningName name)
    (hend : '>' ∉ attributes) (hblank : ∀ c ∈ attributes.head?, isBlank c = true)
    (hlast : attributes.getLast? ≠ some '/') :
    Spells ('<' :: (name ++ attributes ++ ['>'])) .opening name := by
  have hparts := tagParts_of_attributes hname hend hblank (Or.inl rfl)
  rw [List.nil_append] at hparts
  have hbegins := hparts.beginsClosing_eq
  intro span
  constructor
  · have hfront : ('<' :: (name ++ attributes)).getLast? ≠ some '/' :=
      getLast?_ne_slash hname hlast ['<']
    have hkind := kindOf_append_end (List.cons_append).symm hfront
    rw [hbegins] at hkind
    exact hkind
  · rw [Tag.ofText, hbegins]
    exact hparts.openingName_eq

/-- So has a tag that closes itself. -/
theorem spells_selfClosing {name attributes : List Char} (hname : IsOpeningName name)
    (hend : '>' ∉ attributes) (hblank : ∀ c ∈ attributes.head?, isBlank c = true) :
    Spells ('<' :: (name ++ attributes ++ ['/', '>'])) .selfClosing name := by
  have hparts := tagParts_of_attributes hname hend hblank (Or.inr rfl)
  have hbegins := hparts.beginsClosing_eq
  intro span
  constructor
  · exact kindOf_append_slash ('<' :: (name ++ attributes))
  · rw [Tag.ofText]
    simp only [List.singleton_append] at hbegins hparts
    rw [hbegins]
    exact hparts.openingName_eq

/-- So has a closing tag, with nothing but blanks behind the name. -/
theorem spells_closing {name blanks : List Char} (hname : IsOpeningName name)
    (hblanks : Blank blanks) : Spells ('<' :: '/' :: (name ++ blanks ++ ['>'])) .closing name := by
  have hnot : ∀ {c : Char}, isBlank c = false → c ∉ blanks := by
    intro c hc hmem
    rw [hblanks c hmem] at hc
    exact Bool.false_ne_true hc.symm
  have hparts : TagParts ('<' :: '/' :: (name ++ blanks ++ ['>'])) ['/'] name
      (blanks ++ ['>']) := by
    refine ⟨by simp only [List.append_assoc, List.cons_append, List.nil_append], Or.inr rfl,
      hname.1, hname.2, ?_⟩
    cases blanks with
    | nil => exact .close
    | cons c rest =>
        exact .blank (hblanks c List.mem_cons_self)
          fun hmem => hnot (by decide) (List.mem_cons_of_mem c hmem)
  have hbegins := hparts.beginsClosing_eq
  intro span
  constructor
  · have hlast : blanks.getLast? ≠ some '/' := fun hlast =>
      hnot (by decide) (List.mem_of_getLast? hlast)
    have hfront : ('<' :: '/' :: (name ++ blanks)).getLast? ≠ some '/' :=
      getLast?_ne_slash hname hlast ['<', '/']
    have hkind := kindOf_append_end (List.cons_append).symm hfront
    rw [List.cons_append, hbegins] at hkind
    exact hkind
  · -- Of what follows the name only blanks are left, and those are trimmed.
    have hrest : trimEndBy isBlank ((blanks ++ ['>']).filter fun c => c != '>' && c != ' ') = [] := by
      rw [List.filter_append, show ['>'].filter (fun c => c != '>' && c != ' ') = [] from rfl,
        List.append_nil]
      exact trimEndBy_eq_nil fun c hc => hblanks c (List.mem_filter.mp hc).1
    rw [Tag.ofText, hbegins]
    simp only [List.isEmpty_cons, Bool.not_false, if_true]
    rw [hparts.closingName_eq, hrest, List.append_nil]

/-! ## Tags of a line -/

-- The text of a tag of a line, with its parts.
theorem exists_parts_of_mem_tags {line : List Char} {offset : Nat} {tag : Tag}
    (h : tag ∈ (StrippedLine.ofText line).tags offset) :
    ∃ text span slash name tail, tag = Tag.ofText text span ∧ TagParts text slash name tail := by
  rcases List.mem_map.mp h with ⟨found, hfound, rfl⟩
  rcases exists_parts_of_mem_foundTags hfound with ⟨slash, name, tail, hparts⟩
  exact ⟨found.text, _, slash, name, tail, rfl, hparts⟩

/-- Tags and their names. A name that is written the plain way is that of the tag, be it one that
    opens, closes itself or closes. In a line, the name of a tag that does not begin like a
    closing one is the run of name characters behind the `<`. That of a tag which does begins
    with the run behind the slash, and holds no `>` and no space. -/
theorem tag_names :
    (∀ name attributes, IsOpeningName name → '>' ∉ attributes →
      (∀ c ∈ attributes.head?, isBlank c = true) →
        (attributes.getLast? ≠ some '/' →
          Spells ('<' :: (name ++ attributes ++ ['>'])) .opening name) ∧
        Spells ('<' :: (name ++ attributes ++ ['/', '>'])) .selfClosing name) ∧
      (∀ name blanks, IsOpeningName name → Blank blanks →
        Spells ('<' :: '/' :: (name ++ blanks ++ ['>'])) .closing name) ∧
      ∀ line offset, ∀ tag ∈ (StrippedLine.ofText line).tags offset,
        (¬ ['<', '/'] <+: tag.text →
          tag.name = (tag.text.drop 1).takeWhile isNameChar ∧ IsOpeningName tag.name) ∧
        (['<', '/'] <+: tag.text →
          IsOpeningName ((tag.text.drop 2).takeWhile isNameChar) ∧
            (tag.text.drop 2).takeWhile isNameChar <+: tag.name ∧ tag.name ≠ [] ∧
            '>' ∉ tag.name ∧ ' ' ∉ tag.name) := by
  refine ⟨fun name attributes hname hend hblank => ⟨spells_opening hname hend hblank,
    spells_selfClosing hname hend hblank⟩, fun name blanks => spells_closing, ?_⟩
  intro line offset tag htag
  rcases exists_parts_of_mem_tags htag with ⟨text, span, slash, name, tail, rfl, hparts⟩
  change (¬ ['<', '/'] <+: text → _ = (text.drop 1).takeWhile isNameChar ∧ _) ∧
    (['<', '/'] <+: text → IsOpeningName ((text.drop 2).takeWhile isNameChar) ∧
      (text.drop 2).takeWhile isNameChar <+: _ ∧ _)
  have hword := hparts.word_eq
  have hbegins := hparts.beginsClosing_eq
  rw [← hparts.slash_eq_iff]
  rcases hparts.slash_cases with rfl | rfl
  · refine ⟨fun _ => ?_, fun hslash => absurd hslash (by decide)⟩
    have hname : (Tag.ofText text span).name = name := by
      rw [Tag.ofText, hbegins]
      exact hparts.openingName_eq
    rw [hname]
    exact ⟨hword.symm, hparts.name_ne, hparts.isNameChar_name⟩
  · refine ⟨fun hslash => absurd rfl hslash, fun _ => ?_⟩
    have hname : (Tag.ofText text span).name = Tag.closingName text := by
      rw [Tag.ofText, hbegins]
      rfl
    have hspace : ' ' ∉ Tag.closingName text := by
      intro hmem
      exact absurd (List.mem_filter.mp (mem_of_mem_trimBy hmem)).2 (by decide)
    change (text.drop 2).takeWhile isNameChar = name at hword
    rw [hname, hword]
    refine ⟨⟨hparts.name_ne, hparts.isNameChar_name⟩, ?_, ?_,
      fun hmem => (mem_closingName hmem).2 rfl, hspace⟩
    · rw [hparts.closingName_eq]
      exact List.prefix_append _ _
    · rw [hparts.closingName_eq]
      exact List.append_ne_nil_of_left_ne_nil hparts.name_ne _

/-- A name with a dot and a letter of two bytes, with blanks behind it that are no spaces, and a
    closing tag whose name takes in what follows it. -/
theorem tag_names_spelled :
    Spells "<é.b\x1fx=/y>".toList .opening "é.b".toList ∧
      Spells "<é.b\x1fx=/y/>".toList .selfClosing "é.b".toList ∧
      Spells "</é.b\u2003\x1f>".toList .closing "é.b".toList ∧
      ∃ tag ∈ (StrippedLine.ofText "x </é \"/b> y".toList).tags 3,
        ['<', '/'] <+: tag.text ∧ tag.name = "é\"/b".toList ∧
          (tag.text.drop 2).takeWhile isNameChar <+: tag.name ∧ ' ' ∉ tag.name := by
  have hname : IsOpeningName "é.b".toList :=
    ⟨List.cons_ne_nil _ _, List.all_eq_true.mp (by decide +kernel)⟩
  have hblanks : Blank "\u2003\x1f".toList := by decide +kernel
  have hmem : Tag.ofText "</é \"/b>".toList ⟨5, 9⟩
      ∈ (StrippedLine.ofText "x </é \"/b> y".toList).tags 3 := by decide +kernel
  have hbegins : ['<', '/'] <+: (Tag.ofText "</é \"/b>".toList ⟨5, 9⟩).text := by decide +kernel
  rcases tag_names with ⟨hopening, hclosing, hline⟩
  have hblank : ∀ c ∈ "\x1fx=/y".toList.head?, isBlank c = true := by
    intro c hc
    rw [← Option.some.inj (show some '\x1f' = some c from hc)]
    decide
  have hplain := hopening "é.b".toList "\x1fx=/y".toList hname (by decide) hblank
  rcases (hline _ _ _ hmem).2 hbegins with ⟨_, hword, _, _, hspace⟩
  exact ⟨hplain.1 (by decide), hplain.2, hclosing _ _ hname hblanks, _, hmem, hbegins,
    by decide +kernel, hword, hspace⟩

end TagNesting
