import TagNesting.Nesting
import TagNesting.Proofs.SourceLine

/-!
# Pieces of a Source

The lists of pieces that `splitLines` can give. Each text is free of line ends, each piece
but the last has a terminator, and a carriage return alone is none where a line feed comes
next. `WellCut` says so, and it says all there is to say: cutting a text gives well-cut
pieces, and well-cut pieces written one after the other are cut into the same pieces again.

So a text can be changed piece by piece. As long as the new pieces are well cut too, they
are the lines of the new text. The first use is cutting a source off behind the text of one
of its lines. The lines of what is left are those before it and the line itself, unless it
is empty: then nothing is left of it but the terminator before, and no line begins there.

## Main definitions

* `Unbroken`: A text without line ends.
* `IsTerminator`: One of the three terminators.
* `WellCut`: The pieces of a text.
* `lastPiece`: What is left of the piece behind which a text is cut off.

## Theorems

* `wellCut_splitLines`, `splitLines_joined`: Pieces are well cut, and well-cut ones are pieces.
* `unbroken_of_mem_sourceLines`: A line holds no line end.
* `WellCut.cut`: Pieces cut off behind a text.
* `WellCut.replace`, `exists_pieces_replace`: Another text in place of a line.
* `exists_pieces_of_mem_sourceLines`: The pieces around a line.
* `sourceLines_sourceThrough`: The lines of a source that is cut off.
-/

namespace TagNesting

/-- A text without line ends. -/
def Unbroken (text : List Char) : Prop := ∀ c ∈ text, isLineEnd c = false

instance (text : List Char) : Decidable (Unbroken text) := List.decidableBAll _ text

/-- One of the three terminators. -/
def IsTerminator (text : List Char) : Prop :=
  text = ['\n'] ∨ text = ['\r', '\n'] ∨ text = ['\r']

/-- Pieces as a text is cut into them. -/
inductive WellCut : List (List Char × List Char) → Prop where
  /-- The empty text has none. -/
  | nil : WellCut []
  /-- The last one can be without a terminator, and then it is not empty. -/
  | last {text : List Char} (hne : text ≠ []) (htext : Unbroken text) : WellCut [(text, [])]
  /-- Any other has one, and what comes next does not make it longer. -/
  | cons {text terminator : List Char} {more : List (List Char × List Char)}
      (htext : Unbroken text) (hterminator : IsTerminator terminator)
      (hseam : terminator = ['\r'] → (joined more).head? ≠ some '\n') (hmore : WellCut more) :
      WellCut ((text, terminator) :: more)

/-- What is left of the piece behind whose text a source is cut off. -/
def lastPiece (text : List Char) : List (List Char × List Char) :=
  if text = [] then [] else [(text, [])]

theorem unbroken_nil : Unbroken [] := fun _ h => absurd h List.not_mem_nil

theorem unbroken_cons {c : Char} {text : List Char} :
    Unbroken (c :: text) ↔ isLineEnd c = false ∧ Unbroken text := List.forall_mem_cons

theorem unbroken_append {text more : List Char} :
    Unbroken (text ++ more) ↔ Unbroken text ∧ Unbroken more := List.forall_mem_append

/-- A text without line ends holds neither of the two characters that end a line. -/
theorem unbroken_iff {text : List Char} : Unbroken text ↔ '\n' ∉ text ∧ '\r' ∉ text := by
  constructor
  · intro h
    exact ⟨fun hmem => absurd (h _ hmem) (by decide), fun hmem => absurd (h _ hmem) (by decide)⟩
  · rintro ⟨hfeed, hreturn⟩ c hc
    rw [isLineEnd, Bool.or_eq_false_iff, beq_eq_false_iff_ne, beq_eq_false_iff_ne]
    constructor
    · rintro rfl
      exact hfeed hc
    · rintro rfl
      exact hreturn hc

theorem IsTerminator.ne_nil {terminator : List Char} (h : IsTerminator terminator) :
    terminator ≠ [] := by
  rcases h with rfl | rfl | rfl
  · exact List.cons_ne_nil _ _
  · exact List.cons_ne_nil _ _
  · exact List.cons_ne_nil _ _

theorem isTerminator_of_isLineEnd {c : Char} (h : isLineEnd c = true) : IsTerminator [c] := by
  rw [isLineEnd, Bool.or_eq_true, beq_iff_eq, beq_iff_eq] at h
  rcases h with rfl | rfl
  · exact Or.inl rfl
  · exact Or.inr (Or.inr rfl)

/-- A character put in front of a text makes the first piece longer and changes nothing else. -/
theorem WellCut.putFront {c : Char} {text terminator : List Char}
    {more : List (List Char × List Char)} (hc : isLineEnd c = false)
    (h : WellCut ((text, terminator) :: more)) : WellCut ((c :: text, terminator) :: more) := by
  cases h with
  | last _ htext => exact .last (List.cons_ne_nil _ _) (unbroken_cons.mpr ⟨hc, htext⟩)
  | cons htext hterminator hseam hmore =>
      exact .cons (unbroken_cons.mpr ⟨hc, htext⟩) hterminator hseam hmore

/-- The pieces of a text are well cut. -/
theorem wellCut_splitLines (text : List Char) : WellCut (splitLines text) := by
  fun_induction splitLines text with
  | case1 => exact .nil
  | case2 rest ih =>
      exact .cons unbroken_nil (Or.inr (Or.inl rfl)) (fun h => absurd h (by decide)) ih
  | case3 c rest hpair hc ih =>
      refine .cons unbroken_nil (isTerminator_of_isLineEnd hc) (fun hcr hhead => ?_) ih
      -- A line feed that came next would have been part of the terminator.
      rw [joined_splitLines] at hhead
      rcases List.head?_eq_some_iff.mp hhead with ⟨more, hmore⟩
      exact hpair more (List.cons.inj hcr).1 hmore
  | case4 c rest _ hc _ _ =>
      exact .last (List.cons_ne_nil _ _) (unbroken_cons.mpr ⟨Bool.eq_false_iff.mpr hc, unbroken_nil⟩)
  | case5 c rest _ hc text terminator more hcons ih =>
      rw [hcons] at ih
      exact ih.putFront (Bool.eq_false_iff.mpr hc)

-- A text without line ends goes to the front of the first piece.
theorem splitLines_unbroken_append {text : List Char} (htext : Unbroken text)
    {rest front terminator : List Char} {more : List (List Char × List Char)}
    (hrest : splitLines rest = (front, terminator) :: more) :
    splitLines (text ++ rest) = (text ++ front, terminator) :: more := by
  induction text with
  | nil => exact hrest
  | cons c text ih =>
      rw [unbroken_cons] at htext
      rw [List.cons_append, splitLines_cons htext.1, ih htext.2]
      rfl

/-- A text without line ends is one piece without a terminator. -/
theorem splitLines_unbroken {text : List Char} (hne : text ≠ []) (htext : Unbroken text) :
    splitLines text = [(text, [])] := by
  induction text with
  | nil => exact absurd rfl hne
  | cons c text ih =>
      rw [unbroken_cons] at htext
      rw [splitLines_cons htext.1]
      cases text with
      | nil => rfl
      | cons d text =>
          rw [ih (List.cons_ne_nil _ _) htext.2]
          rfl

-- A terminator ends an empty line, unless what comes next makes it longer.
theorem splitLines_terminator_append {terminator rest : List Char}
    (hterminator : IsTerminator terminator)
    (hseam : terminator = ['\r'] → rest.head? ≠ some '\n') :
    splitLines (terminator ++ rest) = ([], terminator) :: splitLines rest := by
  rcases hterminator with rfl | rfl | rfl
  · exact splitLines_cons_lineEnd rfl fun h => absurd h.1 (by decide)
  · exact splitLines.eq_2 rest
  · exact splitLines_cons_lineEnd rfl fun h => hseam rfl h.2

/-- Well-cut pieces are those of the text that they make up. -/
theorem splitLines_joined {pieces : List (List Char × List Char)} (h : WellCut pieces) :
    splitLines (joined pieces) = pieces := by
  induction h with
  | nil => rfl
  | @last text hne htext =>
      have hjoined : joined [(text, [])] = text := by
        rw [joined_cons, List.append_nil]
        exact List.append_nil text
      rw [hjoined]
      exact splitLines_unbroken hne htext
  | @cons text terminator more htext hterminator hseam _ ih =>
      rw [joined_cons, List.append_assoc,
        splitLines_unbroken_append htext (splitLines_terminator_append hterminator hseam),
        List.append_nil, ih]

/-- No text of a piece holds a line end. -/
theorem WellCut.unbroken {pieces : List (List Char × List Char)} (h : WellCut pieces)
    {piece : List Char × List Char} (hmem : piece ∈ pieces) : Unbroken piece.1 := by
  induction h with
  | nil => exact absurd hmem List.not_mem_nil
  | last _ htext =>
      rw [List.mem_singleton] at hmem
      rw [hmem]
      exact htext
  | cons htext _ _ _ ih =>
      rcases List.mem_cons.mp hmem with rfl | hmem
      · exact htext
      · exact ih hmem

-- Pieces are written one after the other, so two lists of them are, too.
theorem joined_append (pieces more : List (List Char × List Char)) :
    joined (pieces ++ more) = joined pieces ++ joined more := List.flatMap_append

theorem joined_lastPiece (text : List Char) : joined (lastPiece text) = text := by
  rw [lastPiece]
  split
  · rename_i hnil
    rw [hnil]
    rfl
  · rw [joined_cons, List.append_nil]
    exact List.append_nil text

-- What does not come first in a text does not come first in what is left of it.
theorem head?_ne_of_prefix {part text : List Char} {c : Char} (hpart : part <+: text)
    (h : text.head? ≠ some c) : part.head? ≠ some c := by
  intro hhead
  rcases hpart with ⟨back, rfl⟩
  rcases List.head?_eq_some_iff.mp hhead with ⟨tail, rfl⟩
  exact h rfl

/-- Pieces stay well cut when the first of them go. -/
theorem WellCut.of_cons {piece : List Char × List Char} {rest : List (List Char × List Char)}
    (h : WellCut (piece :: rest)) : WellCut rest := by
  cases h with
  | last => exact .nil
  | cons _ _ _ hmore => exact hmore

theorem WellCut.of_append {front rest : List (List Char × List Char)}
    (h : WellCut (front ++ rest)) : WellCut rest := by
  induction front with
  | nil => exact h
  | cons piece front ih => exact ih (WellCut.of_cons h)

/-- Only no pieces at all come to an empty text. -/
theorem WellCut.joined_eq_nil_iff {pieces : List (List Char × List Char)} (h : WellCut pieces) :
    joined pieces = [] ↔ pieces = [] := by
  constructor
  · intro hnil
    rw [← splitLines_joined h, hnil]
    rfl
  · rintro rfl
    rfl

section Ends

variable {text terminator : List Char} {rest : List (List Char × List Char)}

-- What ends a piece, and what comes behind it.
theorem WellCut.ends (h : WellCut ((text, terminator) :: rest)) :
    (IsTerminator terminator ∧ (terminator = ['\r'] → (joined rest).head? ≠ some '\n')) ∨
      (terminator = [] ∧ rest = []) := by
  cases h with
  | last => exact Or.inr ⟨rfl, rfl⟩
  | cons _ hterminator hseam _ => exact Or.inl ⟨hterminator, hseam⟩

/-- No piece is empty: it has a text, a terminator or both. -/
theorem WellCut.piece_ne_nil (h : WellCut ((text, terminator) :: rest)) :
    text ++ terminator ≠ [] := by
  cases h with
  | last hne => exact List.append_ne_nil_of_left_ne_nil hne _
  | cons _ hterminator => exact List.append_ne_nil_of_right_ne_nil _ hterminator.ne_nil

end Ends

/-- Pieces stay well cut when they are cut off behind a text. What comes next after a terminator
    is then either what came next before or nothing. -/
theorem WellCut.cut {front rest : List (List Char × List Char)} {text terminator : List Char}
    (h : WellCut (front ++ (text, terminator) :: rest)) : WellCut (front ++ lastPiece text) := by
  induction front with
  | nil =>
      rw [List.nil_append, lastPiece]
      split
      · exact .nil
      · rename_i hne
        exact .last hne (h.unbroken List.mem_cons_self)
  | cons piece front ih =>
      rw [List.cons_append] at h ⊢
      generalize hmore : front ++ (text, terminator) :: rest = more at h
      cases h with
      | last =>
          -- There is a piece behind this one, so it is not the last.
          exact absurd hmore (List.append_ne_nil_of_right_ne_nil _ (List.cons_ne_nil _ _))
      | cons htext hterminator hseam hcut =>
          subst hmore
          have hprefix : joined (front ++ lastPiece text)
              <+: joined (front ++ (text, terminator) :: rest) := by
            rw [joined_append, joined_append, joined_lastPiece, joined_cons, List.append_assoc]
            exact (List.prefix_append_right_inj _).mpr (List.prefix_append _ _)
          exact .cons htext hterminator (fun hcr => head?_ne_of_prefix hprefix (hseam hcr))
            (ih hcut)

/-- Pieces stay well cut when one of them gets another text that is not empty. -/
theorem WellCut.replace {front rest : List (List Char × List Char)}
    {text other terminator : List Char} (h : WellCut (front ++ (text, terminator) :: rest))
    (hother : Unbroken other) (hne : other ≠ []) :
    WellCut (front ++ (other, terminator) :: rest) := by
  induction front with
  | nil =>
      rw [List.nil_append] at h ⊢
      cases h with
      | last => exact .last hne hother
      | cons _ hterminator hseam hmore => exact .cons hother hterminator hseam hmore
  | cons piece front ih =>
      rw [List.cons_append] at h ⊢
      generalize hmore : front ++ (text, terminator) :: rest = more at h
      cases h with
      | last => exact absurd hmore (List.append_ne_nil_of_right_ne_nil _ (List.cons_ne_nil _ _))
      | cons htext hterminator hseam hcut =>
          subst hmore
          refine .cons htext hterminator (fun hcr hhead => ?_) (ih hcut)
          -- What comes next is what came next, unless it is the new text, which is on one line.
          rw [joined_append, joined_cons] at hhead
          have hbefore := hseam hcr
          rw [joined_append] at hbefore
          cases hfront : joined front with
          | nil =>
              rw [hfront, List.nil_append] at hhead
              rcases List.exists_cons_of_ne_nil hne with ⟨c, more, rfl⟩
              have hc := (unbroken_cons.mp hother).1
              rw [Option.some.inj hhead] at hc
              exact absurd hc (by decide)
          | cons c more =>
              rw [hfront] at hhead hbefore
              exact hbefore hhead

/-- The pieces around a line of a source, and the lines that they make. -/
theorem exists_pieces_of_mem_sourceLines {source : List Char} {line : SourceLine}
    (h : line ∈ sourceLines source) :
    ∃ front terminator rest, splitLines source = front ++ (line.text, terminator) :: rest ∧
      line.number = front.length + 1 ∧ line.offset = byteLength (joined front) := by
  rcases exists_pieces_of_mem_numberLines h with
    ⟨front, terminator, rest, hpieces, hnumber, hoffset⟩
  exact ⟨front, terminator, rest, hpieces, by omega, by omega⟩

/-- With another text in place of a line, a source has another text in one of its pieces. -/
theorem exists_pieces_replace {source before after other : List Char} {line : SourceLine}
    (h : line ∈ sourceLines source) (hsource : source = before ++ line.text ++ after)
    (hoffset : line.offset = byteLength before) (hother : Unbroken other) (hne : other ≠ []) :
    ∃ front terminator rest, splitLines source = front ++ (line.text, terminator) :: rest ∧
      splitLines (before ++ other ++ after) = front ++ (other, terminator) :: rest := by
  rcases exists_pieces_of_mem_sourceLines h with ⟨front, terminator, rest, hpieces, _, hfront⟩
  have hcut := wellCut_splitLines source
  rw [hpieces] at hcut
  have hsplit : before ++ (line.text ++ after)
      = joined front ++ (line.text ++ (terminator ++ joined rest)) := by
    rw [← List.append_assoc before, ← hsource, ← joined_splitLines source, hpieces, joined_append,
      joined_cons]
    simp only [List.append_assoc]
  rcases append_inj_of_byteLength_eq hsplit (hoffset ▸ hfront) with ⟨rfl, hback⟩
  have hpiecesOther := splitLines_joined (hcut.replace hother hne)
  refine ⟨front, terminator, rest, hpieces, ?_⟩
  rw [← hpiecesOther, joined_append, joined_cons, List.append_cancel_left hback]
  simp only [List.append_assoc]

/-- A line holds no line end. -/
theorem unbroken_of_mem_sourceLines {source : List Char} {line : SourceLine}
    (h : line ∈ sourceLines source) : Unbroken line.text := by
  rcases exists_pieces_of_mem_sourceLines h with ⟨front, terminator, rest, hpieces, _, _⟩
  have hcut := wellCut_splitLines source
  rw [hpieces] at hcut
  have hmem : (line.text, terminator) ∈ front ++ (line.text, terminator) :: rest :=
    List.mem_append_right _ List.mem_cons_self
  exact hcut.unbroken hmem

/-- The lines of a source that is cut off behind the text of one of them: those before it, and it
    unless it is empty. -/
theorem sourceLines_sourceThrough {source : List Char} {line : SourceLine}
    (h : line ∈ sourceLines source) :
    ∃ before after, sourceLines source = before ++ line :: after ∧
      line.number = before.length + 1 ∧
      sourceLines (line.sourceThrough source)
        = before ++ if line.text = [] then [] else [line] := by
  rcases exists_pieces_of_mem_sourceLines h with
    ⟨front, terminator, rest, hpieces, hnumber, hoffset⟩
  have hline : line = ⟨1 + front.length, 0 + byteLength (joined front), line.text⟩ := by
    rw [Nat.add_comm, ← hnumber, Nat.zero_add, ← hoffset]
  have hcut := wellCut_splitLines source
  rw [hpieces] at hcut
  -- The cut is behind the pieces before the line and the text of the line.
  have hthrough : line.sourceThrough source = joined (front ++ lastPiece line.text) := by
    have hsource : source
        = joined front ++ line.text ++ (terminator ++ joined rest) := by
      rw [← joined_splitLines source, hpieces, joined_append, joined_cons]
      simp only [List.append_assoc]
    rw [SourceLine.sourceThrough, hoffset, ← byteLength_append, hsource, uptoByte_append,
      joined_append, joined_lastPiece]
  refine ⟨numberLines 1 0 front,
    numberLines (1 + front.length + 1)
      (0 + byteLength (joined front) + byteLength line.text + byteLength terminator) rest,
    ?_, ?_, ?_⟩
  · rw [sourceLines, hpieces, numberLines_append, numberLines, ← hline]
  · rw [hnumber, length_numberLines]
  · rw [hthrough, sourceLines, splitLines_joined hcut.cut, numberLines_append, lastPiece]
    split
    · rfl
    · rw [numberLines, ← hline]
      rfl

end TagNesting
