import TagNesting.Proofs.KeptText
import TagNesting.Proofs.Pieces
import TagNesting.Proofs.Relocation

/-!
# Hidden Text

What is written in a comment has no part in a check. It is not only that the tags in it are
passed over: whatever else stands there, a slash, a star, a brace, what opens another
comment, the line less its comments is the same, and so are its tags, but for their places.
The messages of a check say nothing of these, so they are the same too.

The words can be others in either kind of comment. In a block comment they must leave it
closed where it was. Behind two slashes anything can stand, as long as the slashes are what
begins the comment.

## Main definitions

* `Rewords`: A line with other words in one of its comments.
* `strippedTexts`: The lines of a source less their comments.

## Theorems

* `Rewords.text_eq`: The line less its comments is the same.
* `messages_eq_of_strippedTexts`: The messages of a check depend on nothing else.
* `comments_invisible`: What is written in a comment has no part in a check.
-/

namespace TagNesting

/-- A line with other words in one of its comments. -/
inductive Rewords : List Char → List Char → Prop where
  /-- In a block comment that is taken out of the line, which stays closed where it was. -/
  | block {front lead body other trail back : List Char} (hlead : Blank lead)
      (htrail : Blank trail)
      (hremoved : (byteLength front, byteLength (front ++ blockComment lead body trail)) ∈
        removedRanges (StrippedLine.ofText (front ++ blockComment lead body trail ++ back)).runs)
      (hfeed : '\n' ∉ other) (hclosing : ¬ Holds closing other) :
      Rewords (front ++ blockComment lead body trail ++ back)
        (front ++ blockComment lead other trail ++ back)
  /-- In a comment that two slashes begin. -/
  | slashes {front rest other : List Char} (hslashes : ¬ ['/', '/'] <:+: front)
      (hopening : ¬ Holds opening front) (hlast : front.getLast? ≠ some '/') :
      Rewords (front ++ '/' :: '/' :: rest) (front ++ '/' :: '/' :: other)

/-- The lines of a source less their comments. -/
def strippedTexts (source : List Char) : List (List Char) :=
  (splitLines source).map fun piece => (StrippedLine.ofText piece.1).text

/-- The line less its comments is the same. -/
theorem Rewords.text_eq {line other : List Char} (h : Rewords line other) :
    (StrippedLine.ofText other).text = (StrippedLine.ofText line).text := by
  cases h with
  | block hlead htrail hremoved hfeed hclosing =>
      exact text_ofText_replace hlead htrail hremoved hfeed hclosing
  | slashes hslashes hopening hlast =>
      rw [text_ofText_slashes hslashes hopening hlast, text_ofText_slashes hslashes hopening hlast]

theorem Rewords.ne_nil {line other : List Char} (h : Rewords line other) : other ≠ [] := by
  cases h with
  | block =>
      rw [List.append_assoc, blockComment, opening]
      exact List.append_ne_nil_of_right_ne_nil _ (List.cons_ne_nil _ _)
  | slashes => exact List.append_ne_nil_of_right_ne_nil _ (List.cons_ne_nil _ _)

-- The tags of a line, their places apart, depend on its number and on what is left of it.
theorem tags_nowhere (line : SourceLine) :
    line.tags.map Relocation.nowhere.placed
      = (foundTags (StrippedLine.ofText line.text).text).map fun tag =>
          ⟨line.number, Tag.ofText tag.text ⟨0, 0⟩⟩ := by
  rw [SourceLine.tags, StrippedLine.tags, List.map_map, List.map_map]
  rfl

theorem flatMap_tags_nowhere {pieces others : List (List Char × List Char)}
    (h : pieces.map (fun piece => (StrippedLine.ofText piece.1).text)
      = others.map fun piece => (StrippedLine.ofText piece.1).text) (number offset other : Nat) :
    ((numberLines number offset pieces).flatMap SourceLine.tags).map Relocation.nowhere.placed
      = ((numberLines number other others).flatMap SourceLine.tags).map
          Relocation.nowhere.placed := by
  induction pieces generalizing others number offset other with
  | nil =>
      cases others with
      | nil => rfl
      | cons => cases h
  | cons piece pieces ih =>
      cases others with
      | nil => cases h
      | cons next others =>
          rw [List.map_cons, List.map_cons, List.cons.injEq] at h
          rw [numberLines, numberLines, List.flatMap_cons, List.flatMap_cons, List.map_append,
            List.map_append, tags_nowhere, tags_nowhere, h.1]
          congr 1
          exact ih h.2 _ _ _

/-- The messages of a check depend on the lines less their comments and on nothing else. -/
theorem messages_eq_of_strippedTexts (void : List (List Char)) {source other : List Char}
    (h : strippedTexts source = strippedTexts other) :
    (findings void source).map Finding.message = (findings void other).map Finding.message := by
  refine messages_eq_of_nowhere ?_
  -- Whether a tag affects the nesting is not a matter of its place.
  have haffects : affectsNesting void ∘ Relocation.nowhere.placed = affectsNesting void := rfl
  have hfilter : ∀ text : List Char, (nestingTags void text).map Relocation.nowhere.placed
      = ((sourceTags text).map Relocation.nowhere.placed).filter (affectsNesting void) := by
    intro text
    rw [List.filter_map, haffects, nestingTags]
  have htags : (sourceTags source).map Relocation.nowhere.placed
      = (sourceTags other).map Relocation.nowhere.placed := flatMap_tags_nowhere h 1 0 0
  rw [hfilter, hfilter, htags]

theorem strippedTexts_replace {source before after other : List Char} {line : SourceLine}
    (h : line ∈ sourceLines source) (hsource : source = before ++ line.text ++ after)
    (hoffset : line.offset = byteLength before) (hother : Unbroken other)
    (hwords : Rewords line.text other) :
    strippedTexts (before ++ other ++ after) = strippedTexts source := by
  rcases exists_pieces_replace h hsource hoffset hother hwords.ne_nil with
    ⟨front, terminator, rest, hpieces, hothers⟩
  rw [strippedTexts, strippedTexts, hpieces, hothers, List.map_append, List.map_append,
    List.map_cons, List.map_cons, hwords.text_eq]

/-- What is written in a comment has no part in a check: neither in what is left of its line, be
    it a block comment or one that two slashes begin, nor in the messages. -/
theorem comments_invisible :
    (∀ front lead body other trail back : List Char, Blank lead → Blank trail →
        (byteLength front, byteLength (front ++ blockComment lead body trail)) ∈
          removedRanges
            (StrippedLine.ofText (front ++ blockComment lead body trail ++ back)).runs →
        '\n' ∉ other → ¬ Holds closing other →
          (StrippedLine.ofText (front ++ blockComment lead other trail ++ back)).text
            = (StrippedLine.ofText (front ++ blockComment lead body trail ++ back)).text) ∧
      (∀ front rest : List Char, ¬ ['/', '/'] <:+: front → ¬ Holds opening front →
        front.getLast? ≠ some '/' →
          (StrippedLine.ofText (front ++ '/' :: '/' :: rest)).text = front) ∧
      ∀ (void : List (List Char)) (source before after other : List Char),
        ∀ line ∈ sourceLines source, source = before ++ line.text ++ after →
          line.offset = byteLength before → Rewords line.text other → Unbroken other →
            (findings void (before ++ other ++ after)).map Finding.message
              = (findings void source).map Finding.message := by
  refine ⟨?_, ?_, ?_⟩
  · intro front lead body other trail back hlead htrail hremoved hfeed hclosing
    exact text_ofText_replace hlead htrail hremoved hfeed hclosing
  · intro front rest hslashes hopening hlast
    exact text_ofText_slashes hslashes hopening hlast rest
  · intro void source before after other line hline hsource hoffset hwords hother
    exact messages_eq_of_strippedTexts void
      (strippedTexts_replace hline hsource hoffset hother hwords)

/-- A comment that held a tag and holds parts of comments now, on the second line of a source. -/
theorem comments_invisible_delimiters :
    (StrippedLine.ofText "<a>\x7b/***/ \x7b/* //*/\x7d</b>".toList).text
        = (StrippedLine.ofText "<a>\x7b/*<c>*/\x7d</b>".toList).text ∧
      (StrippedLine.ofText "<a> // \x7b/* <b>".toList).text = "<a> ".toList ∧
      (findings [] "<i>\n<a>\x7b/***/ \x7b/* //*/\x7d</b>\n".toList).map Finding.message
        = (findings [] "<i>\n<a>\x7b/*<c>*/\x7d</b>\n".toList).map Finding.message := by
  rcases comments_invisible with ⟨hblock, hslashes, hmessages⟩
  refine ⟨?_, ?_, ?_⟩
  · exact hblock "<a>".toList [] "<c>".toList "**/ \x7b/* //".toList [] "</b>".toList (by decide)
      (by decide) (by decide) (by decide) (by decide)
  · exact hslashes "<a> ".toList " \x7b/* <b>".toList (by decide) (by decide) (by decide)
  · refine hmessages [] _ "<i>\n".toList "\n".toList "<a>\x7b/***/ \x7b/* //*/\x7d</b>".toList
      ⟨2, 4, "<a>\x7b/*<c>*/\x7d</b>".toList⟩ (by decide) (by decide) (by decide) ?_ (by decide)
    exact @Rewords.block "<a>".toList [] "<c>".toList "**/ \x7b/* //".toList [] "</b>".toList
      (by decide) (by decide) (by decide) (by decide) (by decide)

end TagNesting
