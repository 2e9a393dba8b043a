import TagNesting.Proofs.PlacedTag
import TagNesting.Proofs.Relocation
import TagNesting.Proofs.WellNested

/-!
# Insertion

What a check says when lines are put into a source that have nothing wrong with them. It
says what it said before, with the places behind the new lines moved down by them.

Two things make it so. The new tags are well nested, and well-nested tags leave any stack
as it was, so the walk over all tags is the walk over the old ones. And moving tags moves
the findings on them and does nothing else.

## Main definitions

* `Move`: A part of a source that moves down, and how far.
* `Move.takes`: A span lies in the part that moves.
* `Move.span`, `Move.opened`, `Move.placed`, `Move.finding`: What a move does.
* `Move.relocation`: A move as other places for tags.
* `Move.ofInsertion`: The move that an insertion makes.

## Theorems

* `reported_move`: A walk over moved tags reports the moved findings.
* `reported_insert`: Well-nested tags can be put in anywhere.
* `nestingTags_insert`: The tags of a source with lines put in.
* `findings_insert`: A check of a source with clean lines put in.
-/

namespace TagNesting

/-- A part of a source that moves down. -/
structure Move where
  /-- The byte position at which the part begins. -/
  first : Nat
  /-- The byte position at which it ends. -/
  last : Nat
  /-- The number of lines it moves by. -/
  lines : Nat
  /-- The number of bytes it moves by. -/
  bytes : Nat
  deriving DecidableEq, Repr

namespace Move

/-- A span lies in the part that moves. -/
def takes (move : Move) (span : Span) : Prop :=
  move.first ≤ span.start.toNat ∧ span.stop.toNat ≤ move.last

instance (move : Move) (span : Span) : Decidable (move.takes span) :=
  inferInstanceAs (Decidable (_ ∧ _))

/-- A span behind the move. -/
def span (move : Move) (s : Span) : Span :=
  if move.takes s then s.shift move.bytes else s

/-- The number behind the move of a line that holds a span. -/
def line (move : Move) (s : Span) (number : Nat) : Nat :=
  if move.takes s then number + move.lines else number

/-- A tag on the stack behind the move. -/
def opened (move : Move) (tag : OpenTag) : OpenTag := ⟨tag.name, move.span tag.span⟩

/-- A tag behind the move. -/
def placed (move : Move) (placed : PlacedTag) : PlacedTag :=
  ⟨move.line placed.tag.span placed.line,
    { placed.tag with span := move.span placed.tag.span }⟩

/-- A finding behind the move: each span that lies in the part is shifted, and the line is
    another one where the closing tag lies there. -/
def finding (move : Move) : Finding → Finding
  | .unexpectedClosing line name span =>
      .unexpectedClosing (move.line span line) name (move.span span)
  | .mismatchedClosing line name span expected =>
      .mismatchedClosing (move.line span line) name (move.span span) (move.opened expected)
  | .unclosed tags => .unclosed (tags.map move.opened)

end Move

/-- A move gives the tags it takes other places. -/
def Move.relocation (move : Move) : Relocation := ⟨move.span, move.line⟩

theorem Move.finding_eq (move : Move) : move.finding = move.relocation.finding := by
  funext finding
  cases finding with
  | unexpectedClosing => rfl
  | mismatchedClosing => rfl
  | unclosed => rfl

/-- A walk over moved tags reports the moved findings. -/
theorem reported_move (move : Move) (tags : List PlacedTag) :
    reported (walk [] (tags.map move.placed)) = (reported (walk [] tags)).map move.finding := by
  rw [move.finding_eq, ← reported_relocated]
  rfl

/-- Well-nested tags can be put in anywhere without a word about them. -/
theorem reported_insert {inserted : List PlacedTag} (h : WellNested inserted)
    (before after : List PlacedTag) :
    reported (walk [] (before ++ inserted ++ after)) = reported (walk [] (before ++ after)) := by
  -- The walk over the inserted tags ends on the stack it began with and reports nothing.
  have hfound : found [] (before ++ inserted ++ after) = found [] (before ++ after) := by
    rw [found_append, found_append, found_wellNested h, List.append_nil, walk_append,
      walk_wellNested h, found_append]
  have hwalk : (walk [] (before ++ inserted ++ after)).2 = (walk [] (before ++ after)).2 := by
    rw [walk_append, walk_append, walk_wellNested h, walk_append]
  rw [reported_walk, reported_walk, hfound, hwalk]

theorem WellNested.moved {tags : List PlacedTag} (h : WellNested tags) (lines bytes : Nat) :
    WellNested (tags.map (PlacedTag.moved lines bytes)) := by
  induction h with
  | empty => exact WellNested.empty
  | nested opens closes name_eq _ _ ihinner ihafter =>
      rw [List.map_cons, List.map_append, List.map_cons]
      exact WellNested.nested opens closes name_eq ihinner ihafter

theorem breaks_of_lineFeed {text : List Char} (h : text = [] ∨ text.getLast? = some '\n')
    (after : List Char) : Breaks text after := by
  rcases h with hnil | hlast
  · exact Or.inl hnil
  · exact Or.inr ⟨'\n', hlast, rfl, fun hpair => absurd hpair.1 (by decide)⟩

theorem lineFeed_append {text more : List Char} (h : text = [] ∨ text.getLast? = some '\n')
    (hmore : more = [] ∨ more.getLast? = some '\n') :
    text ++ more = [] ∨ (text ++ more).getLast? = some '\n' := by
  rcases hmore with rfl | hlast
  · rwa [List.append_nil]
  · refine Or.inr ?_
    rw [List.getLast?_append, hlast]
    rfl

namespace Move

/-- A tag of a source that ends before the part that moves stays where it is. -/
theorem placed_before {move : Move} {source : List Char} {placed : PlacedTag}
    (hfirst : byteLength source ≤ move.first) (hsize : byteLength source ≤ maxPosition)
    (h : placed ∈ sourceTags source) : move.placed placed = placed := by
  have hbounds := bounds_of_mem_sourceTags hsize h
  have hnot : ¬ move.takes placed.tag.span := fun htakes => by
    have := htakes.1
    omega
  rw [Move.placed, line, span, if_neg hnot, if_neg hnot]

/-- A tag of a source that stands in the part that moves goes down with it. -/
theorem placed_behind {move : Move} {source : List Char} {placed : PlacedTag} {lines bytes : Nat}
    (hfirst : move.first ≤ bytes) (hlast : bytes + byteLength source ≤ move.last)
    (hsize : bytes + byteLength source + move.bytes ≤ maxPosition)
    (h : placed ∈ sourceTags source) :
    move.placed (placed.moved lines bytes)
      = placed.moved (lines + move.lines) (bytes + move.bytes) := by
  have hbounds := bounds_of_mem_sourceTags (show byteLength source ≤ maxPosition by omega) h
  have htakes : move.takes (placed.tag.span.shift bytes) := by
    rw [takes, Span.start_shift, Span.stop_shift]
    omega
  rw [Move.placed, PlacedTag.moved, PlacedTag.moved, line, span, if_pos htakes, if_pos htakes,
    Span.shift_shift (by omega), Nat.add_assoc]

end Move

/-- The part behind an insertion moves down by what is inserted. -/
def Move.ofInsertion (before inserted after : List Char) : Move where
  first := byteLength before
  last := byteLength (before ++ after)
  lines := (sourceLines inserted).length
  bytes := byteLength inserted

section Insertion

variable {before inserted after : List Char}

theorem map_placed_before (void : List (List Char)) (inserted after : List Char)
    (hsize : byteLength before ≤ maxPosition) :
    (nestingTags void before).map (Move.ofInsertion before inserted after).placed
      = nestingTags void before := by
  refine (List.map_congr_left fun placed hplaced => ?_).trans (List.map_id _)
  exact Move.placed_before (Nat.le_refl _) hsize (List.mem_filter.mp hplaced).1

/-- The tags behind an insertion, already moved behind those before it, move down once more. -/
theorem map_placed_behind (void : List (List Char)) (lines : Nat)
    (hsize : byteLength (before ++ inserted ++ after) ≤ maxPosition) :
    ((nestingTags void after).map (PlacedTag.moved lines (byteLength before))).map
        (Move.ofInsertion before inserted after).placed
      = (nestingTags void after).map
          (PlacedTag.moved (lines + (sourceLines inserted).length)
            (byteLength before + byteLength inserted)) := by
  rw [byteLength_append, byteLength_append] at hsize
  rw [List.map_map]
  refine List.map_congr_left fun placed hplaced => ?_
  refine Move.placed_behind (Nat.le_refl _) ?_ ?_ (List.mem_filter.mp hplaced).1
  · rw [Move.ofInsertion, byteLength_append]
  · change byteLength before + byteLength after + byteLength inserted ≤ maxPosition
    omega

/-- The tags of a source with lines put into it: the inserted ones, and before and behind them
    those of the source without them, moved. -/
theorem nestingTags_insert (void : List (List Char))
    (hbefore : before = [] ∨ before.getLast? = some '\n')
    (hinserted : inserted = [] ∨ inserted.getLast? = some '\n')
    (hsize : byteLength (before ++ inserted ++ after) ≤ maxPosition) :
    nestingTags void (before ++ inserted ++ after)
      = (nestingTags void before).map (Move.ofInsertion before inserted after).placed
        ++ (nestingTags void inserted).map
          (PlacedTag.moved (sourceLines before).length (byteLength before))
        ++ ((nestingTags void after).map
          (PlacedTag.moved (sourceLines before).length (byteLength before))).map
            (Move.ofInsertion before inserted after).placed := by
  have hbytes := hsize
  rw [byteLength_append, byteLength_append] at hbytes
  have hfront : byteLength (before ++ inserted) ≤ maxPosition := by
    rw [byteLength_append]
    omega
  -- A line behind the new ones is further down by those before them and by them.
  have hlines : (sourceLines (before ++ inserted)).length
      = (sourceLines before).length + (sourceLines inserted).length := by
    rw [sourceLines_append (breaks_of_lineFeed hbefore _), List.length_append, List.length_map]
  rw [nestingTags_append void (breaks_of_lineFeed (lineFeed_append hbefore hinserted) after)
      hsize, nestingTags_append void (breaks_of_lineFeed hbefore inserted) hfront, hlines,
    byteLength_append, map_placed_before void inserted after (by omega),
    map_placed_behind void _ hsize]

/-- A check of a source into which lines are put that have nothing wrong with them. What it says
    is what it says without them, each place behind them moved down by their lines and bytes. -/
theorem findings_insert (void : List (List Char))
    (hbefore : before = [] ∨ before.getLast? = some '\n')
    (hinserted : inserted = [] ∨ inserted.getLast? = some '\n')
    (hsize : byteLength (before ++ inserted ++ after) ≤ maxPosition)
    (hclean : findings void inserted = []) :
    findings void (before ++ inserted ++ after)
      = (findings void (before ++ after)).map
          (Move.ofInsertion before inserted after).finding := by
  rw [findings_eq_nil_iff, ← wellNested_iff fun _ => kind_of_mem_nestingTags] at hclean
  have hwithout : byteLength (before ++ after) ≤ maxPosition := by
    rw [byteLength_append, byteLength_append] at hsize
    rw [byteLength_append]
    omega
  rw [findings, nestingTags_insert void hbefore hinserted hsize,
    reported_insert (hclean.moved _ _), ← List.map_append, reported_move, findings,
    nestingTags_append void (breaks_of_lineFeed hbefore after) hwithout]

/-- A closed element put in between a tag and the wrong closing tag for it. -/
theorem findings_insert_between :
    findings [] ("<a>\n".toList ++ "<i></i>\n".toList ++ "</b>".toList)
      = [.mismatchedClosing 3 "b".toList ⟨12, 4⟩ ⟨"a".toList, ⟨0, 3⟩⟩] := by
  rw [findings_insert [] (Or.inr rfl) (Or.inr rfl) (by decide) (by decide)]
  decide

end Insertion

end TagNesting
