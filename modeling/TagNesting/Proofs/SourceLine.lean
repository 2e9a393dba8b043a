import Mathlib.Data.List.Basic
import TagNesting.Markup.SourceLine

/-!
# Lines of Joined Texts

How the lines of a source come together from its parts. The pieces of `splitLines`, each
text with its terminator, are the source again, and where a line break stands between two
texts the lines of both together are those of the one and then those of the other, moved
on. The one break that does not separate is a carriage return before a line feed: the two
are one terminator, and cutting between them would count it twice.

## Main definitions

* `joined`: Pieces written one after the other.
* `putFront`: Pieces with a character more at the front.
* `Breaks`: A line break stands between two texts.
* `SourceLine.moved`: A line further down in a source.

## Theorems

* `joined_splitLines`: Nothing of a text is lost.
* `splitLines_append`: The pieces of two texts with a break between them.
* `numberLines_moved`, `numberLines_append`: Numbering from elsewhere, and in two parts.
* `sourceLines_append`: The lines of two texts with a break between them.
* `exists_pieces_of_mem_numberLines`: The piece that a line is made of.
* `exists_append_of_mem_sourceLines`: Where a line stands in its source.
* `pairwise_sourceLines`: Lines follow each other without overlap.
-/

namespace TagNesting

/-- Pieces written one after the other, each text with its terminator. -/
def joined (pieces : List (List Char × List Char)) : List Char :=
  pieces.flatMap fun piece => piece.1 ++ piece.2

/-- Pieces with a character more at the front of the first line. -/
def putFront (c : Char) : List (List Char × List Char) → List (List Char × List Char)
  | [] => [([c], [])]
  | (text, terminator) :: more => (c :: text, terminator) :: more

/-- A line break stands between two texts: nothing comes before the second, or a terminator
    does that the second does not continue. -/
def Breaks (before after : List Char) : Prop :=
  before = [] ∨ ∃ c, before.getLast? = some c ∧ isLineEnd c = true ∧
    ¬ (c = '\r' ∧ after.head? = some '\n')

/-- A line further down in a source. -/
def SourceLine.moved (lines bytes : Nat) (line : SourceLine) : SourceLine :=
  ⟨line.number + lines, line.offset + bytes, line.text⟩

theorem joined_cons (piece : List Char × List Char) (pieces : List (List Char × List Char)) :
    joined (piece :: pieces) = piece.1 ++ piece.2 ++ joined pieces := rfl

/-- A terminator of one character ends an empty line. -/
theorem splitLines_cons_lineEnd {c : Char} {rest : List Char} (hc : isLineEnd c = true)
    (hpair : ¬ (c = '\r' ∧ rest.head? = some '\n')) :
    splitLines (c :: rest) = ([], [c]) :: splitLines rest := by
  rw [splitLines]
  · rw [if_pos hc]
  · rintro more rfl rfl
    exact hpair ⟨rfl, rfl⟩

-- A character that ends no line belongs to the first one.
theorem splitLines_cons {c : Char} (hc : isLineEnd c = false) (rest : List Char) :
    splitLines (c :: rest) = putFront c (splitLines rest) := by
  rw [splitLines]
  · rw [if_neg (by rw [hc]; exact Bool.false_ne_true)]
    cases splitLines rest with
    | nil => rfl
    | cons piece more => rfl
  · rintro more rfl rfl
    exact absurd hc (by decide)

/-- Nothing of a text is lost: its pieces are the text again. -/
theorem joined_splitLines (text : List Char) : joined (splitLines text) = text := by
  fun_induction splitLines text with
  | case1 => rfl
  | case2 rest ih => exact congrArg (fun t => '\r' :: '\n' :: t) ih
  | case3 c rest _ hc ih => exact congrArg (c :: ·) ih
  | case4 c rest _ hc hnil ih =>
      rw [hnil] at ih
      rw [← ih]
      rfl
  | case5 c rest _ hc text terminator more hcons ih =>
      rw [hcons] at ih
      exact congrArg (c :: ·) ih

/-- A text that is not empty has a line. -/
theorem splitLines_ne_nil {text : List Char} (h : text ≠ []) : splitLines text ≠ [] := by
  intro hnil
  have hjoined := joined_splitLines text
  rw [hnil] at hjoined
  exact h hjoined.symm

-- The break is at the end, so it is the one behind the rest of the text as well.
theorem Breaks.of_cons {c : Char} {rest after : List Char} (h : Breaks (c :: rest) after)
    (hrest : rest ≠ []) : Breaks rest after := by
  rcases h with hnil | ⟨d, hlast, hend, hpair⟩
  · exact absurd hnil (List.cons_ne_nil _ _)
  · refine Or.inr ⟨d, ?_, hend, hpair⟩
    rcases List.exists_cons_of_ne_nil hrest with ⟨e, more, rfl⟩
    rwa [List.getLast?_cons_cons] at hlast

/-- The pieces of two texts with a line break between them are those of the one and those of
    the other. -/
theorem splitLines_append {before after : List Char} (h : Breaks before after) :
    splitLines (before ++ after) = splitLines before ++ splitLines after := by
  fun_induction splitLines before with
  | case1 => rfl
  | case2 rest ih =>
      rw [List.cons_append, List.cons_append, splitLines]
      -- The pair is one terminator, and the break stands behind it or behind what follows.
      by_cases hrest : rest = []
      · rw [hrest]
        rfl
      · rw [ih ((h.of_cons (List.cons_ne_nil _ _)).of_cons hrest), List.cons_append]
  | case3 c rest hpair hc ih =>
      have hseam : ¬ (c = '\r' ∧ (rest ++ after).head? = some '\n') := by
        rintro ⟨rfl, hhead⟩
        cases rest with
        | nil =>
            -- The text ends here, and the break says that no line feed follows.
            rcases h with hnil | ⟨d, hlast, _, hno⟩
            · exact absurd hnil (List.cons_ne_nil _ _)
            · rw [List.getLast?_singleton, Option.some.injEq] at hlast
              exact hno ⟨hlast.symm, hhead⟩
        | cons d rest =>
            rw [List.cons_append, List.head?_cons, Option.some.injEq] at hhead
            exact hpair rest rfl (by rw [hhead])
      rw [List.cons_append, splitLines_cons_lineEnd hc hseam, List.cons_append]
      by_cases hrest : rest = []
      · rw [hrest]
        rfl
      · rw [ih (h.of_cons hrest)]
  | case4 c rest _ hc hnil ih =>
      -- Only an empty rest has no pieces, and then the text would end in no terminator.
      have hrest : rest = [] := by
        by_contra hne
        exact splitLines_ne_nil hne hnil
      rcases h with hnil | ⟨d, hlast, hend, _⟩
      · exact absurd hnil (List.cons_ne_nil _ _)
      · rw [hrest, List.getLast?_singleton, Option.some.injEq] at hlast
        exact absurd (hlast ▸ hend) hc
  | case5 c rest _ hc text terminator more hcons ih =>
      -- The character goes to the front of the first line of the rest, which is there.
      have hrest : rest ≠ [] := by
        rintro rfl
        exact absurd hcons (by simp only [splitLines, reduceCtorEq, not_false_eq_true])
      rw [List.cons_append, splitLines_cons (Bool.eq_false_iff.mpr hc), ih (h.of_cons hrest),
        hcons]
      rfl

/-- Lines numbered from further on and placed further down are the same lines moved. -/
theorem numberLines_moved (number offset lines bytes : Nat)
    (pieces : List (List Char × List Char)) :
    numberLines (number + lines) (offset + bytes) pieces
      = (numberLines number offset pieces).map (SourceLine.moved lines bytes) := by
  induction pieces generalizing number offset with
  | nil => rfl
  | cons piece pieces ih =>
      rw [numberLines, numberLines, List.map_cons, ← ih]
      rw [show number + lines + 1 = number + 1 + lines by omega,
        show offset + bytes + byteLength piece.1 + byteLength piece.2
          = offset + byteLength piece.1 + byteLength piece.2 + bytes by omega]
      rfl

/-- Numbers and offsets go on from the pieces before. -/
theorem numberLines_append (number offset : Nat) (pieces more : List (List Char × List Char)) :
    numberLines number offset (pieces ++ more)
      = numberLines number offset pieces
        ++ numberLines (number + pieces.length) (offset + byteLength (joined pieces)) more := by
  induction pieces generalizing number offset with
  | nil => rfl
  | cons piece pieces ih =>
      rw [List.cons_append, numberLines, numberLines, ih, List.cons_append, joined_cons,
        byteLength_append, byteLength_append, List.length_cons]
      congr 3
      · omega
      · omega

theorem length_numberLines (number offset : Nat) (pieces : List (List Char × List Char)) :
    (numberLines number offset pieces).length = pieces.length := by
  induction pieces generalizing number offset with
  | nil => rfl
  | cons piece pieces ih => rw [numberLines, List.length_cons, ih, List.length_cons]

/-- The lines of two texts with a line break between them are those of the one and then those
    of the other, moved behind them. -/
theorem sourceLines_append {before after : List Char} (h : Breaks before after) :
    sourceLines (before ++ after)
      = sourceLines before
        ++ (sourceLines after).map
          (SourceLine.moved (sourceLines before).length (byteLength before)) := by
  rw [sourceLines, splitLines_append h, numberLines_append, joined_splitLines, sourceLines,
    sourceLines, length_numberLines, ← numberLines_moved]

/-- A line is made of one of the pieces, and the pieces before it say where it stands. -/
theorem exists_pieces_of_mem_numberLines {number offset : Nat}
    {pieces : List (List Char × List Char)} {line : SourceLine}
    (h : line ∈ numberLines number offset pieces) :
    ∃ front terminator rest, pieces = front ++ (line.text, terminator) :: rest ∧
      line.number = number + front.length ∧
      line.offset = offset + byteLength (joined front) := by
  induction pieces generalizing number offset with
  | nil => exact absurd h List.not_mem_nil
  | cons piece pieces ih =>
      rw [numberLines] at h
      rcases List.mem_cons.mp h with rfl | hmem
      · exact ⟨[], piece.2, pieces, rfl, rfl, rfl⟩
      · rcases ih hmem with ⟨front, terminator, rest, hpieces, hnumber, hoffset⟩
        refine ⟨piece :: front, terminator, rest, by rw [hpieces, List.cons_append], ?_, ?_⟩
        · rw [hnumber, List.length_cons]
          omega
        · rw [hoffset, joined_cons, byteLength_append, byteLength_append]
          omega

theorem exists_append_of_mem_numberLines {number offset : Nat}
    {pieces : List (List Char × List Char)} {line : SourceLine}
    (h : line ∈ numberLines number offset pieces) :
    ∃ before after, joined pieces = before ++ line.text ++ after ∧
      line.offset = offset + byteLength before := by
  rcases exists_pieces_of_mem_numberLines h with ⟨front, terminator, rest, hpieces, _, hoffset⟩
  refine ⟨joined front, terminator ++ joined rest, ?_, hoffset⟩
  rw [hpieces, joined, joined, joined, List.flatMap_append, List.flatMap_cons]
  simp only [List.append_assoc]

/-- A line stands in the source, at its offset. -/
theorem exists_append_of_mem_sourceLines {source : List Char} {line : SourceLine}
    (h : line ∈ sourceLines source) :
    ∃ before after, source = before ++ line.text ++ after ∧
      line.offset = byteLength before := by
  rcases exists_append_of_mem_numberLines h with ⟨before, after, hjoined, hoffset⟩
  rw [joined_splitLines] at hjoined
  exact ⟨before, after, hjoined, by rw [hoffset, Nat.zero_add]⟩

theorem add_byteLength_le_of_mem_sourceLines {source : List Char} {line : SourceLine}
    (h : line ∈ sourceLines source) :
    line.offset + byteLength line.text ≤ byteLength source := by
  rcases exists_append_of_mem_sourceLines h with ⟨before, after, hsource, hoffset⟩
  rw [hsource, hoffset, byteLength_append, byteLength_append]
  omega

theorem pairwise_numberLines (number offset : Nat) (pieces : List (List Char × List Char)) :
    (numberLines number offset pieces).Pairwise
      fun line next => line.offset + byteLength line.text ≤ next.offset := by
  induction pieces generalizing number offset with
  | nil => exact List.Pairwise.nil
  | cons piece pieces ih =>
      rw [numberLines, List.pairwise_cons]
      refine ⟨fun next hnext => ?_, ih _ _⟩
      -- A later line stands in the pieces that begin behind this one and its terminator.
      rcases exists_append_of_mem_numberLines hnext with ⟨before, after, _, hoffset⟩
      change offset + byteLength piece.1 ≤ next.offset
      omega

/-- Each line of a source ends before the next one begins. -/
theorem pairwise_sourceLines (source : List Char) :
    (sourceLines source).Pairwise
      fun line next => line.offset + byteLength line.text ≤ next.offset :=
  pairwise_numberLines 1 0 (splitLines source)

end TagNesting
