import TagNesting.Proofs.FoundTag
import TagNesting.Proofs.SourceLine
import TagNesting.Proofs.Span
import TagNesting.Proofs.StrippedLine
import TagNesting.Nesting

/-!
# Placed Tags

Where the tags of a source stand. Four positions are involved: that of the tag in the
stripped line, that in the line, the 32-bit span, and the span moved to where the line
begins. As long as the source is no longer than the largest position, none of them
saturates and the last one is exact.

So the tags of a line further down are the same tags further down, and the tags of two
texts with a line break between them are those of the one and then those of the other,
moved behind them.

## Main definitions

* `SourceLine.range`, `SourceLine.placed`: A found tag in its line and in the source.
* `PlacedTag.moved`: A tag further down in a source.

## Theorems

* `exists_slice_of_mem_foundTags`: The slice of a line that a found tag comes from.
* `bounds_placed`, `bounds_of_mem_sourceTags`: The ends of a tag's span.
* `range_snd_le`: A tag ends in its line before the next one begins.
* `tags_moved`: The tags of a line further down.
* `sourceTags_append`, `nestingTags_append`: The tags of two texts with a break between them.
-/

namespace TagNesting

/-- The bounds of a found tag in its line. -/
def SourceLine.range (line : SourceLine) (tag : FoundTag) : Nat × Nat :=
  (StrippedLine.ofText line.text).range tag.start (tag.start + byteLength tag.text)

/-- A found tag placed in the source of its line. -/
def SourceLine.placed (line : SourceLine) (tag : FoundTag) : PlacedTag :=
  ⟨line.number, Tag.ofText tag.text
    ((Span.ofBounds (line.range tag).1 (line.range tag).2).shift line.offset)⟩

/-- A tag further down in a source. -/
def PlacedTag.moved (lines bytes : Nat) (placed : PlacedTag) : PlacedTag :=
  ⟨placed.line + lines, { placed.tag with span := placed.tag.span.shift bytes }⟩

/-- The slice of a line that a found tag comes from. Its bounds are those of the range, also
    where comments stand within the tag or next to it. -/
theorem exists_slice_of_mem_foundTags {text : List Char} {tag : FoundTag}
    (h : tag ∈ foundTags (StrippedLine.ofText text).text) :
    ∃ front slice back, text = front ++ slice ++ back ∧
      slice.head? = some '<' ∧ slice.getLast? = some '>' ∧
      (StrippedLine.ofText text).range tag.start (tag.start + byteLength tag.text)
        = (byteLength front, byteLength (front ++ slice)) ∧
      outside (removedRanges (StrippedLine.ofText text).runs) (byteLength front) slice
        = tag.text := by
  rcases exists_append_of_mem_foundTags h with ⟨before, body, after, htext, hstart, htag, _⟩
  rcases exists_append_beforeSlashes ((StrippedLine.ofText text).runs.flatMap Run.text)
    with ⟨rest, hrest⟩
  -- The runs hold the stripped text and what the slashes cut off behind it.
  have hkept : (StrippedLine.ofText text).runs.flatMap Run.text
      = before ++ ('<' :: body ++ ['>']) ++ (after ++ rest) := by
    rw [hrest, ← List.append_assoc, List.cons_append, ← htag, ← htext]
    rfl
  rcases (strips_ofText text).exists_slice_of_kept hkept
    with ⟨front, inner, back, hline, hfirst, hlast, houtside⟩
  rw [Nat.zero_add] at hfirst hlast houtside
  refine ⟨front, '<' :: inner ++ ['>'], back, hline, rfl, ?_, ?_, ?_⟩
  · exact List.getLast?_concat
  · -- A `>` is one byte long, so the last byte of the tag is where its `>` begins.
    have hsize : ('>' : Char).utf8Size = 1 := by decide
    have hbytes : tag.start + byteLength tag.text - 1 = byteLength (before ++ '<' :: body) := by
      rw [hstart, htag]
      simp only [byteLength_append, byteLength_cons, byteLength_nil, hsize]
      omega
    have hlt : ¬ tag.start + byteLength tag.text ≤ tag.start := by
      rw [htag, byteLength_cons]
      have := ('<' : Char).utf8Size_pos
      omega
    rw [StrippedLine.range, if_neg hlt, StrippedLine.position, StrippedLine.position, hbytes,
      hstart, hfirst, hlast]
    simp only [byteLength_append, byteLength_cons, byteLength_nil, hsize]
    rfl
  · rw [houtside, htag]
    rfl

theorem SourceLine.tags_eq_map (line : SourceLine) :
    line.tags = (foundTags (StrippedLine.ofText line.text).text).map line.placed := by
  rw [tags, StrippedLine.tags, List.map_map]
  rfl

theorem range_lt_of_mem_foundTags {line : SourceLine} {tag : FoundTag}
    (h : tag ∈ foundTags (StrippedLine.ofText line.text).text) :
    (line.range tag).1 < (line.range tag).2 ∧ (line.range tag).2 ≤ byteLength line.text := by
  rcases exists_slice_of_mem_foundTags h with ⟨front, slice, back, htext, hhead, _, hrange, _⟩
  rcases List.head?_eq_some_iff.mp hhead with ⟨rest, rfl⟩
  have := ('<' : Char).utf8Size_pos
  rw [SourceLine.range, hrange, htext]
  simp only [byteLength_append, byteLength_cons]
  omega

theorem bounds_placed {line : SourceLine} {tag : FoundTag}
    (h : tag ∈ foundTags (StrippedLine.ofText line.text).text)
    (hrange : line.offset + byteLength line.text ≤ maxPosition) :
    (line.placed tag).tag.span.start.toNat = (line.range tag).1 + line.offset ∧
      (line.placed tag).tag.span.stop.toNat = (line.range tag).2 + line.offset := by
  have hlt := range_lt_of_mem_foundTags h
  exact Span.bounds_ofBounds_shift (Nat.le_of_lt hlt.1) (by omega)

/-- A tag of a source that ends in range is not empty and ends before the source does. -/
theorem bounds_of_mem_sourceTags {source : List Char} {placed : PlacedTag}
    (hsize : byteLength source ≤ maxPosition) (h : placed ∈ sourceTags source) :
    placed.tag.span.start.toNat < placed.tag.span.stop.toNat ∧
      placed.tag.span.stop.toNat ≤ byteLength source := by
  rcases List.mem_flatMap.mp h with ⟨line, hline, hplaced⟩
  rw [SourceLine.tags_eq_map] at hplaced
  rcases List.mem_map.mp hplaced with ⟨tag, htag, rfl⟩
  have hend := add_byteLength_le_of_mem_sourceLines hline
  have hlt := range_lt_of_mem_foundTags htag
  rw [(bounds_placed htag (by omega)).1, (bounds_placed htag (by omega)).2]
  omega

/-- A range of the stripped text ends before a later one begins, in the line as well. -/
theorem range_snd_le {line : SourceLine} {tag next : FoundTag}
    (htag : tag ∈ foundTags (StrippedLine.ofText line.text).text)
    (hle : tag.start + byteLength tag.text ≤ next.start) :
    (line.range tag).2 ≤ (line.range next).1 := by
  have hlt : tag.start < tag.start + byteLength tag.text := by
    rcases exists_append_of_mem_foundTags htag with ⟨_, body, _, _, _, htext, _⟩
    have := ('<' : Char).utf8Size_pos
    rw [htext, byteLength_cons]
    omega
  -- The range ends behind the image of the tag's last byte, and that byte is before the next.
  have hmono := (strips_ofText line.text).positionIn_add_le
    (show tag.start + byteLength tag.text - 1 ≤ next.start by omega)
  have hnext : (line.range next).1
      = StrippedLine.positionIn (StrippedLine.ofText line.text).runs next.start := by
    rw [SourceLine.range, StrippedLine.range]
    split
    · rfl
    · rfl
  have hlast : (line.range tag).2
      = StrippedLine.positionIn (StrippedLine.ofText line.text).runs
          (tag.start + byteLength tag.text - 1) + 1 := by
    rw [SourceLine.range, StrippedLine.range, if_neg (by omega)]
    rfl
  omega

/-- The tags of a line further down, where it still ends in range. -/
theorem tags_moved {line : SourceLine} {lines bytes : Nat}
    (hrange : line.offset + bytes + byteLength line.text ≤ maxPosition) :
    (line.moved lines bytes).tags = line.tags.map (PlacedTag.moved lines bytes) := by
  rw [SourceLine.tags_eq_map, SourceLine.tags_eq_map, List.map_map]
  refine List.map_congr_left fun tag htag => ?_
  have hlt : (line.range tag).1 < (line.range tag).2 ∧
      (line.range tag).2 ≤ byteLength line.text := range_lt_of_mem_foundTags htag
  -- Nothing saturates, so the two shifts are one.
  have hspan : (Span.ofBounds (line.range tag).1 (line.range tag).2).shift (line.offset + bytes)
      = ((Span.ofBounds (line.range tag).1 (line.range tag).2).shift line.offset).shift bytes := by
    rw [Span.ofBounds_shift (by omega) (by omega), Span.ofBounds_shift (by omega) (by omega),
      Span.ofBounds_shift (by omega) (by omega), Nat.add_assoc, Nat.add_assoc]
  exact congrArg (fun span => (⟨line.number + lines, Tag.ofText tag.text span⟩ : PlacedTag)) hspan

theorem sourceTags_append {before after : List Char} (h : Breaks before after)
    (hsize : byteLength (before ++ after) ≤ maxPosition) :
    sourceTags (before ++ after)
      = sourceTags before
        ++ (sourceTags after).map
          (PlacedTag.moved (sourceLines before).length (byteLength before)) := by
  rw [byteLength_append] at hsize
  rw [sourceTags, sourceLines_append h, List.flatMap_append, List.flatMap_map, sourceTags,
    sourceTags, List.map_flatMap]
  congr 1
  -- Each line of the second text is moved, and its tags with it.
  refine List.flatMap_congr fun line hline => ?_
  have hend := add_byteLength_le_of_mem_sourceLines hline
  exact tags_moved (by omega)

/-- The tags that open or close something, which a tag does wherever it stands. -/
theorem nestingTags_append (void : List (List Char)) {before after : List Char}
    (h : Breaks before after) (hsize : byteLength (before ++ after) ≤ maxPosition) :
    nestingTags void (before ++ after)
      = nestingTags void before
        ++ (nestingTags void after).map
          (PlacedTag.moved (sourceLines before).length (byteLength before)) := by
  rw [nestingTags, sourceTags_append h hsize, List.filter_append, List.filter_map]
  rfl

end TagNesting
