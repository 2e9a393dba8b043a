import Mathlib.Data.List.Basic
import TagNesting.Proofs.BlockComment

/-!
# Stripped Lines

Where the text of a stripped line comes from. `Strips` follows the search for block
comments through a line, one character or one comment at a time, and every fact about runs
is an induction on it.

The runs decide two things. They say which ranges of the line the comments took, the ones
between a run and the next, and they map a byte of the text they hold to a byte of the
line. Both agree: `exists_append_of_kept` takes a character of that text and gives its
place in the line, which is the one the map gives, and what is left of the line before it
and behind it once the comments are taken out. Applied at both ends of a stretch of the
text, it tells which slice of the line the stretch comes from and that the slice less its
comments is the stretch again.

## Main definitions

* `Strips`: The search for block comments, step by step.
* `removedRanges`: The ranges of a line that its comments took.
* `inRange`: A byte lies in one of some ranges.
* `outside`: The part of a text that lies in none of them.

## Theorems

* `strips_runsFrom`: The runs of a line are what the search finds.
* `exists_comment_of_mem_removedRanges`: The ranges are those of block comments.
* `positionIn_add_le`: The map from the text to the line never draws bytes together.
* `exists_append_of_kept`: The place of a character in the line.
* `exists_slice_of_kept`: The slice of the line that a stretch of the text comes from.
* `strips_ofText`: The search through a whole line.
* `mem_of_mem_ofText`: Nothing comes into a line that was not in it.
-/

namespace TagNesting

/-- The search for block comments in a text that stands at byte `position` of the line: a
    character that begins no comment goes to the front of the run behind it, and a comment
    leaves an empty run before the next. -/
inductive Strips : Nat → List Char → List Run → Prop where
  /-- The end of the line. -/
  | done (position : Nat) : Strips position [] [⟨position, []⟩]
  /-- A character that is kept. -/
  | kept {position : Nat} {c : Char} {rest : List Char} {run : Run} {runs : List Run}
      (hnone : afterComment? (c :: rest) = none)
      (hrest : Strips (position + c.utf8Size) rest (run :: runs)) :
      Strips position (c :: rest) (⟨position, c :: run.text⟩ :: runs)
  /-- A comment that is taken out. -/
  | comment {position : Nat} {comment rest : List Char} {runs : List Run}
      (hcomment : afterComment? (comment ++ rest) = some rest)
      (hrest : Strips (position + byteLength comment) rest runs) :
      Strips position (comment ++ rest) (⟨position, []⟩ :: runs)

/-- The first run begins where the text does. -/
theorem Strips.exists_cons {position : Nat} {text : List Char} {runs : List Run}
    (h : Strips position text runs) : ∃ kept more, runs = ⟨position, kept⟩ :: more := by
  cases h with
  | done => exact ⟨[], [], rfl⟩
  | kept _ _ => exact ⟨_, _, rfl⟩
  | comment _ _ => exact ⟨[], _, rfl⟩

/-- The runs of a text are what the search finds behind the characters it skips. -/
theorem strips_runsFrom (skip position : Nat) (text : List Char) :
    Strips (position + byteLength (text.take skip)) (text.drop skip)
      (runsFrom skip position text) := by
  fun_induction runsFrom skip position text with
  | case1 skip position =>
      rw [List.take_nil, List.drop_nil]
      exact Strips.done position
  | case2 skip position c rest ih =>
      rw [List.take_succ_cons, List.drop_succ_cons, byteLength_cons, ← Nat.add_assoc]
      exact ih
  | case3 position c rest after hafter ih =>
      rcases exists_append_of_afterComment? hafter with ⟨body, hbody⟩
      rw [List.cons.injEq] at hbody
      rcases hbody with ⟨rfl, rfl⟩
      -- The characters to skip are those of the comment behind its brace.
      have hskip : (body ++ after).length - after.length = body.length := by
        rw [List.length_append, Nat.add_sub_cancel]
      rw [hskip, List.take_left, List.drop_left, Nat.add_assoc, ← byteLength_cons] at ih
      rw [hskip, List.take_zero, List.drop_zero, byteLength_nil, Nat.add_zero]
      exact Strips.comment hafter ih
  | case4 position c rest hnone hnil ih =>
      -- The rest of the line has a run, so this case does not come up.
      rw [hnil] at ih
      rcases ih.exists_cons with ⟨_, _, hcons⟩
      exact absurd hcons (List.cons_ne_nil _ _).symm
  | case5 position c rest hnone run runs hcons ih =>
      rw [hcons, List.take_zero, List.drop_zero, byteLength_nil, Nat.add_zero] at ih
      exact Strips.kept hnone ih

/-- The ranges of a line that its comments took: those between a run and the next. -/
def removedRanges : List Run → List (Nat × Nat)
  | [] => []
  | [_] => []
  | run :: next :: runs =>
      (run.start + byteLength run.text, next.start) :: removedRanges (next :: runs)

/-- A byte lies in one of some ranges, each from its first bound to just before the other. -/
def inRange (ranges : List (Nat × Nat)) (n : Nat) : Bool :=
  ranges.any fun range => range.1 ≤ n && n < range.2

/-- The part of a text, standing at byte `position`, that lies in none of the ranges. -/
def outside (ranges : List (Nat × Nat)) (position : Nat) : List Char → List Char
  | [] => []
  | c :: rest =>
      if inRange ranges position then outside ranges (position + c.utf8Size) rest
      else c :: outside ranges (position + c.utf8Size) rest

theorem inRange_cons (range : Nat × Nat) (ranges : List (Nat × Nat)) (n : Nat) :
    inRange (range :: ranges) n = (decide (range.1 ≤ n ∧ n < range.2) || inRange ranges n) := by
  rw [Bool.decide_and]
  rfl

/-- What lies outside of ranges is found part by part, each at its own place. -/
theorem outside_append (ranges : List (Nat × Nat)) (position : Nat) (text more : List Char) :
    outside ranges position (text ++ more)
      = outside ranges position text ++ outside ranges (position + byteLength text) more := by
  induction text generalizing position with
  | nil => rfl
  | cons c rest ih =>
      rw [List.cons_append, outside, outside, ih, byteLength_cons, Nat.add_assoc]
      split
      · rfl
      · rfl

/-- A range that ends at or before a text takes nothing from it. -/
theorem outside_cons_of_le {range : Nat × Nat} {position : Nat} (h : range.2 ≤ position)
    (ranges : List (Nat × Nat)) (text : List Char) :
    outside (range :: ranges) position text = outside ranges position text := by
  induction text generalizing position with
  | nil => rfl
  | cons c rest ih =>
      have hnot : ¬ (range.1 ≤ position ∧ position < range.2) := by omega
      rw [outside, outside, inRange_cons, decide_eq_false hnot, Bool.false_or,
        ih (Nat.le_trans h (Nat.le_add_right _ _))]

/-- A text that lies in a range is gone. -/
theorem outside_cons_of_within {range : Nat × Nat} {position : Nat} {text : List Char}
    (hfirst : range.1 ≤ position) (hlast : position + byteLength text ≤ range.2)
    (ranges : List (Nat × Nat)) : outside (range :: ranges) position text = [] := by
  induction text generalizing position with
  | nil => rfl
  | cons c rest ih =>
      rw [byteLength_cons] at hlast
      have hsize := c.utf8Size_pos
      have hin : inRange (range :: ranges) position = true := by
        rw [inRange_cons, decide_eq_true ⟨hfirst, by omega⟩, Bool.true_or]
      rw [outside, if_pos hin]
      exact ih (by omega) (by omega)

/-- A comment adds the range that it takes up. -/
theorem Strips.removedRanges_comment {position size : Nat} {rest : List Char}
    {runs : List Run} (h : Strips (position + size) rest runs) :
    removedRanges (⟨position, []⟩ :: runs)
      = (position, position + size) :: removedRanges runs := by
  rcases h.exists_cons with ⟨kept, more, rfl⟩
  rfl

/-- A kept character makes the first run longer and leaves the ranges as they are. -/
theorem Strips.removedRanges_kept {position : Nat} {c : Char} {rest : List Char} {run : Run}
    {runs : List Run} (h : Strips (position + c.utf8Size) rest (run :: runs)) :
    removedRanges (⟨position, c :: run.text⟩ :: runs) = removedRanges (run :: runs) := by
  rcases h.exists_cons with ⟨kept, more, hcons⟩
  rw [List.cons.injEq] at hcons
  rcases hcons with ⟨rfl, rfl⟩
  cases runs with
  | nil => rfl
  | cons next runs =>
      rw [removedRanges, removedRanges, byteLength_cons, Nat.add_assoc]

/-- No range lies before the text that has been searched. -/
theorem Strips.le_of_mem_removedRanges {position : Nat} {text : List Char} {runs : List Run}
    (h : Strips position text runs) {range : Nat × Nat} (hmem : range ∈ removedRanges runs) :
    position ≤ range.1 := by
  induction h with
  | done => exact absurd hmem List.not_mem_nil
  | kept _ hrest ih =>
      rw [hrest.removedRanges_kept] at hmem
      have := ih hmem
      omega
  | comment _ hrest ih =>
      rw [hrest.removedRanges_comment] at hmem
      rcases List.mem_cons.mp hmem with rfl | hmem
      · exact Nat.le_refl _
      · have := ih hmem
        omega

/-- What the ranges take from a line are block comments, each of them whole. -/
theorem Strips.exists_comment_of_mem_removedRanges {position : Nat} {text : List Char}
    {runs : List Run} (h : Strips position text runs) {range : Nat × Nat}
    (hmem : range ∈ removedRanges runs) :
    ∃ front comment back, text = front ++ comment ++ back ∧
      afterComment? (comment ++ back) = some back ∧
      range = (position + byteLength front, position + byteLength (front ++ comment)) := by
  induction h with
  | done => exact absurd hmem List.not_mem_nil
  | @kept position c _ _ _ _ hrest ih =>
      rw [hrest.removedRanges_kept] at hmem
      rcases ih hmem with ⟨front, comment, back, htext, hcomment, hrange⟩
      refine ⟨c :: front, comment, back, by rw [htext]; rfl, hcomment, ?_⟩
      rw [hrange, List.cons_append, byteLength_cons, byteLength_cons, Nat.add_assoc,
        Nat.add_assoc]
  | @comment position comment rest _ hcomment hrest ih =>
      rw [hrest.removedRanges_comment] at hmem
      rcases List.mem_cons.mp hmem with rfl | hmem
      · -- It is the comment that the text begins with.
        exact ⟨[], comment, rest, rfl, hcomment, rfl⟩
      · rcases ih hmem with ⟨front, inner, back, htext, hinner, hrange⟩
        refine ⟨comment ++ front, inner, back, by rw [htext]; simp only [List.append_assoc],
          hinner, ?_⟩
        rw [hrange]
        simp only [byteLength_append, Nat.add_assoc]

/-- No range lies before the text. -/
theorem Strips.inRange_eq_false {position n : Nat} {text : List Char} {runs : List Run}
    (h : Strips position text runs) (hn : n < position) :
    inRange (removedRanges runs) n = false := by
  rw [inRange, List.any_eq_false]
  intro range hmem
  have hle := h.le_of_mem_removedRanges hmem
  simp only [Bool.and_eq_true, decide_eq_true_eq]
  omega

-- The byte in front of what has been searched is in no range of it, so a character kept there
-- stays.
theorem Strips.not_inRange {position : Nat} {c : Char} {rest : List Char} {runs : List Run}
    (h : Strips (position + c.utf8Size) rest runs) :
    inRange (removedRanges runs) position = false :=
  h.inRange_eq_false (Nat.lt_add_of_pos_right c.utf8Size_pos)

theorem positionIn_cons_cons (start : Nat) (text : List Char) (next : Run) (runs : List Run)
    (n : Nat) :
    StrippedLine.positionIn (⟨start, text⟩ :: next :: runs) n
      = if byteLength text ≤ n then
          StrippedLine.positionIn (next :: runs) (n - byteLength text)
        else start + n := rfl

/-- A kept character stands where the line begins, and all behind it is found as if the line
    began one character later. -/
theorem Strips.positionIn_kept {position : Nat} {c : Char} {rest : List Char} {run : Run}
    {runs : List Run} (h : Strips (position + c.utf8Size) rest (run :: runs)) (n : Nat) :
    StrippedLine.positionIn (⟨position, c :: run.text⟩ :: runs) n
      = if c.utf8Size ≤ n then StrippedLine.positionIn (run :: runs) (n - c.utf8Size)
        else position + n := by
  rcases h.exists_cons with ⟨kept, more, hcons⟩
  rw [List.cons.injEq] at hcons
  rcases hcons with ⟨rfl, rfl⟩
  cases runs with
  | nil =>
      change position + n
        = if c.utf8Size ≤ n then position + c.utf8Size + (n - c.utf8Size) else position + n
      split <;> omega
  | cons next runs =>
      rw [positionIn_cons_cons, positionIn_cons_cons, byteLength_cons]
      -- A byte of the character itself, of the run it begins, or of a later one.
      by_cases hsize : c.utf8Size ≤ n
      · by_cases hrun : c.utf8Size + byteLength kept ≤ n
        · rw [if_pos hrun, if_pos hsize, if_pos (by omega), Nat.sub_sub]
        · rw [if_neg hrun, if_pos hsize, if_neg (by omega)]
          omega
      · rw [if_neg (by omega), if_neg hsize]

/-- Nothing stands in an empty run that has another behind it. -/
theorem Strips.positionIn_comment {start position : Nat} {rest : List Char} {runs : List Run}
    (h : Strips start rest runs) (n : Nat) :
    StrippedLine.positionIn (⟨position, []⟩ :: runs) n = StrippedLine.positionIn runs n := by
  rcases h.exists_cons with ⟨kept, more, rfl⟩
  rw [StrippedLine.positionIn, byteLength_nil, if_pos (Nat.zero_le n), Nat.sub_zero]

/-- Comments only ever move bytes to the right. -/
theorem Strips.add_le_positionIn {position : Nat} {text : List Char} {runs : List Run}
    (h : Strips position text runs) (n : Nat) :
    position + n ≤ StrippedLine.positionIn runs n := by
  induction h generalizing n with
  | done position => exact Nat.le_refl _
  | @kept position c rest run runs _ hrest ih =>
      rw [hrest.positionIn_kept]
      split
      · have := ih (n - c.utf8Size)
        omega
      · exact Nat.le_refl _
  | comment _ hrest ih =>
      rw [hrest.positionIn_comment]
      have := ih n
      omega

/-- Two bytes are at least as far apart in the line as they are in the text of the runs. -/
theorem Strips.positionIn_add_le {position : Nat} {text : List Char} {runs : List Run}
    (h : Strips position text runs) {m n : Nat} (hle : m ≤ n) :
    StrippedLine.positionIn runs m + (n - m) ≤ StrippedLine.positionIn runs n := by
  induction h generalizing m n with
  | done position =>
      rw [StrippedLine.positionIn, StrippedLine.positionIn]
      omega
  | @kept position c rest run runs _ hrest ih =>
      rw [hrest.positionIn_kept, hrest.positionIn_kept]
      -- Bytes of one character stay together, and all others lie behind it.
      by_cases hm : c.utf8Size ≤ m
      · rw [if_pos hm, if_pos (by omega)]
        have := ih (m := m - c.utf8Size) (n := n - c.utf8Size) (by omega)
        omega
      · rw [if_neg hm]
        split
        · have := hrest.add_le_positionIn (n - c.utf8Size)
          omega
        · omega
  | comment _ hrest ih =>
      rw [hrest.positionIn_comment, hrest.positionIn_comment]
      exact ih hle

/-- The place of a character of the text of the runs: the line falls into what stands before
    it and behind it, the map gives the byte at which it stands, and what the comments leave
    on its two sides is the text on its two sides. -/
theorem Strips.exists_append_of_kept {position : Nat} {text : List Char} {runs : List Run}
    (h : Strips position text runs) {c : Char} {before after : List Char}
    (hkept : runs.flatMap Run.text = before ++ c :: after) :
    ∃ front back, text = front ++ c :: back ∧
      StrippedLine.positionIn runs (byteLength before) = position + byteLength front ∧
      outside (removedRanges runs) position front = before ∧
      inRange (removedRanges runs) (position + byteLength front) = false := by
  induction h generalizing before with
  | done position =>
      exact absurd hkept (List.append_ne_nil_of_right_ne_nil _ (List.cons_ne_nil _ _)).symm
  | @kept position d rest run runs _ hrest ih =>
      rw [hrest.positionIn_kept, hrest.removedRanges_kept]
      have hsize := d.utf8Size_pos
      cases before with
      | nil =>
          -- The character is the first one that is kept.
          rw [List.nil_append, List.flatMap_cons, List.cons_append, List.cons.injEq] at hkept
          rcases hkept with ⟨rfl, -⟩
          refine ⟨[], rest, rfl, ?_, rfl, hrest.not_inRange⟩
          rw [byteLength_nil, if_neg (by omega)]
      | cons e before =>
          rw [List.flatMap_cons, List.cons_append, List.cons_append, List.cons.injEq] at hkept
          rcases hkept with ⟨rfl, hkept⟩
          rcases ih hkept with ⟨front, back, htext, hposition, houtside, hrange⟩
          refine ⟨d :: front, back, by rw [htext, List.cons_append], ?_, ?_, ?_⟩
          · rw [byteLength_cons, if_pos (Nat.le_add_right _ _), Nat.add_sub_cancel_left,
              hposition, byteLength_cons, Nat.add_assoc]
          · rw [outside, hrest.not_inRange, houtside]
            rfl
          · rw [byteLength_cons, ← Nat.add_assoc]
            exact hrange
  | @comment position comment rest runs _ hrest ih =>
      rw [hrest.positionIn_comment, hrest.removedRanges_comment]
      rcases ih hkept with ⟨front, back, htext, hposition, houtside, hrange⟩
      refine ⟨comment ++ front, back, by rw [htext, List.append_assoc], ?_, ?_, ?_⟩
      · rw [hposition, byteLength_append, Nat.add_assoc]
      · rw [outside_append, outside_cons_of_within (Nat.le_refl _) (Nat.le_refl _),
          outside_cons_of_le (Nat.le_refl _), houtside, List.nil_append]
      · rw [byteLength_append, ← Nat.add_assoc, inRange_cons, decide_eq_false (by omega),
          Bool.false_or]
        exact hrange

/-- The slice of the line that a stretch of the text comes from, the stretch given by its two
    ends. It begins and ends with the same characters, the map gives its bounds, and it is the
    stretch again once its comments are taken out. -/
theorem Strips.exists_slice_of_kept {position : Nat} {text : List Char} {runs : List Run}
    (h : Strips position text runs) {c d : Char} {before middle after : List Char}
    (hkept : runs.flatMap Run.text = before ++ (c :: middle ++ [d]) ++ after) :
    ∃ front inner back, text = front ++ (c :: inner ++ [d]) ++ back ∧
      StrippedLine.positionIn runs (byteLength before) = position + byteLength front ∧
      StrippedLine.positionIn runs (byteLength (before ++ c :: middle))
        = position + byteLength (front ++ c :: inner) ∧
      outside (removedRanges runs) (position + byteLength front) (c :: inner ++ [d])
        = c :: middle ++ [d] := by
  have hfirst : runs.flatMap Run.text = before ++ c :: (middle ++ d :: after) := by
    rw [hkept]
    simp only [List.cons_append, List.append_assoc, List.nil_append]
  have hlast : runs.flatMap Run.text = (before ++ c :: middle) ++ d :: after := by
    rw [hkept]
    simp only [List.cons_append, List.append_assoc, List.nil_append]
  rcases h.exists_append_of_kept hfirst with ⟨front, back, htext, hposition, houtside, _⟩
  rcases h.exists_append_of_kept hlast with
    ⟨front', back', htext', hposition', houtside', hrange'⟩
  -- The map keeps the order of the two ends, so the line meets the first one first.
  have hlt : byteLength front < byteLength front' := by
    have hmono := h.positionIn_add_le
      (show byteLength before ≤ byteLength (before ++ c :: middle) by
        rw [byteLength_append]; exact Nat.le_add_right _ _)
    have hsize := c.utf8Size_pos
    rw [byteLength_append, byteLength_cons] at hmono
    rw [byteLength_append, byteLength_cons] at hposition'
    omega
  rw [htext] at htext'
  -- Both ends cut the same line, the last one further on, so a gap stands between the two cuts
  -- and begins with the first character.
  rcases List.append_eq_append_iff.mp htext' with ⟨gap, hgap, hback⟩ | ⟨gap, hgap, _⟩
  · cases gap with
    | nil =>
        rw [hgap, List.append_nil] at hlt
        exact absurd hlt (Nat.lt_irrefl _)
    | cons e inner =>
        rw [List.cons_append, List.cons.injEq] at hback
        rcases hback with ⟨rfl, hback⟩
        subst hgap
        refine ⟨front, inner, back', ?_, hposition, hposition', ?_⟩
        · rw [htext, hback]
          simp only [List.cons_append, List.append_assoc, List.nil_append]
        · rw [outside_append, houtside, List.append_cancel_left_eq] at houtside'
          rw [outside_append, houtside', Nat.add_assoc, ← byteLength_append, outside, hrange']
          rfl
  · rw [hgap, byteLength_append] at hlt
    omega

/-- What stands before the slashes is the front of the text. -/
theorem exists_append_beforeSlashes (text : List Char) :
    ∃ rest, text = beforeSlashes text ++ rest := by
  induction text with
  | nil => exact ⟨[], rfl⟩
  | cons c text ih =>
      rw [beforeSlashes]
      split
      · exact ⟨c :: text, rfl⟩
      · rcases ih with ⟨rest, hrest⟩
        exact ⟨rest, by rw [List.cons_append, ← hrest]⟩

/-- The runs of a stripped line are those of the search through the whole line. -/
theorem strips_ofText (text : List Char) : Strips 0 text (StrippedLine.ofText text).runs := by
  have h := strips_runsFrom 0 0 text
  rwa [List.take_zero, List.drop_zero, byteLength_nil, Nat.add_zero] at h

/-- What is left of a text are characters of it, in their order. -/
theorem Strips.sublist {position : Nat} {text : List Char} {runs : List Run}
    (h : Strips position text runs) : (runs.flatMap Run.text).Sublist text := by
  induction h with
  | done => exact List.Sublist.refl _
  | kept _ _ ih => exact ih.cons_cons _
  | comment _ _ ih => exact ih.trans (List.sublist_append_right _ _)

/-- Stripping brings no character in. -/
theorem mem_of_mem_ofText {text : List Char} {c : Char}
    (h : c ∈ (StrippedLine.ofText text).text) : c ∈ text := by
  rcases exists_append_beforeSlashes ((StrippedLine.ofText text).runs.flatMap Run.text)
    with ⟨rest, hrest⟩
  refine (strips_ofText text).sublist.subset ?_
  rw [hrest]
  exact List.mem_append_left _ h

end TagNesting
