import Mathlib.Data.List.TakeWhile
import TagNesting.Proofs.Pieces

/-!
# Lines as a Partition

The lines of a source taken one after the other, by a cursor that knows the byte it has got
to and how many lines it has given out. It stops when no byte is left, and the lines it has
given out by then are those of the source.

They are a partition. Each line stands in the source at its offset, a terminator stands
behind it, and the next line begins behind that. Only the last one can be without a
terminator, for then the source has ended, and since a line begins at a byte there is none
behind a terminator that ends the source.

## Main definitions

* `LineCursor`, `LineCursor.next?`: Taking one line.
* `Yields`: All the lines that a cursor gives out before it stops.
* `Partitions`: Lines and terminators make up a source.

## Theorems

* `exists_terminator`: The first line of a text and what ends it.
* `yields_numberLines`: The cursor gives out the lines that are left.
* `Yields.unique`: A cursor gives out its lines in one way.
* `getElem?_numberLines`: A line by its place among the lines.
* `partitions_sourceLines`: The lines of a source make it up.
* `lines_partition`: Lines are taken until the source is partitioned.
-/

namespace TagNesting

/-- How far the taking of lines has got. -/
structure LineCursor where
  offset : Nat
  number : Nat
  deriving DecidableEq, Repr

/-- The size of the terminator that a text begins with, if it is not empty. -/
def terminatorSize : List Char → Nat
  | [] => 0
  | '\r' :: '\n' :: _ => 2
  | _ :: _ => 1

/-- The line at a cursor and the cursor behind its terminator. There is none where no byte is
    left. -/
def LineCursor.next? (source : List Char) (cursor : LineCursor) : Option (SourceLine × LineCursor) :=
  if byteLength source ≤ cursor.offset then none
  else
    let rest := fromByte cursor.offset source
    let text := rest.takeWhile (!isLineEnd ·)
    let size := byteLength text + terminatorSize (rest.dropWhile (!isLineEnd ·))
    some (⟨cursor.number + 1, cursor.offset, text⟩, ⟨cursor.offset + size, cursor.number + 1⟩)

/-- The lines that a cursor gives out before it stops. -/
inductive Yields (source : List Char) : LineCursor → List SourceLine → Prop where
  /-- No line is left. -/
  | done {cursor : LineCursor} (hend : cursor.next? source = none) : Yields source cursor []
  /-- One line, and those that the cursor behind it gives out. -/
  | line {cursor next : LineCursor} {line : SourceLine} {lines : List SourceLine}
      (hnext : cursor.next? source = some (line, next)) (hrest : Yields source next lines) :
      Yields source cursor (line :: lines)

/-- Lines and terminators, one of these for each line, that make up a source. -/
structure Partitions (source : List Char) (lines : List SourceLine)
    (terminators : List (List Char)) : Prop where
  length_eq : terminators.length = lines.length
  /-- Texts and terminators, one behind the other, are the source. -/
  joined_eq : joined ((lines.map SourceLine.text).zip terminators) = source
  number_eq : ∀ i line, lines[i]? = some line → line.number = i + 1
  unbroken : ∀ line ∈ lines, '\n' ∉ line.text ∧ '\r' ∉ line.text
  /-- The first line begins with the source. -/
  first_offset : ∀ line, lines[0]? = some line → line.offset = 0
  /-- Any other begins behind the terminator of the one before. -/
  next_offset : ∀ i line terminator next, lines[i]? = some line →
    terminators[i]? = some terminator → lines[i + 1]? = some next →
      next.offset = line.offset + byteLength line.text + byteLength terminator
  /-- A line begins at a byte of the source. -/
  offset_lt : ∀ line ∈ lines, line.offset < byteLength source
  /-- A line is the slice of the source at its offset. Behind it stands a terminator that what
      comes next does not make longer, or the source ends there and the line is the last one.
      Behind the terminator there is something just where another line comes. -/
  placed : ∀ i line terminator, lines[i]? = some line → terminators[i]? = some terminator →
    ∃ before after, source = before ++ line.text ++ terminator ++ after ∧
      line.offset = byteLength before ∧
      ((IsTerminator terminator ∧ (terminator = ['\r'] → after.head? ≠ some '\n')) ∨
        (terminator = [] ∧ after = [] ∧ i + 1 = lines.length)) ∧
      (after = [] ↔ i + 1 = lines.length)

/-! ## Taking lines -/

theorem fromByte_append (before rest : List Char) :
    fromByte (byteLength before) (before ++ rest) = rest := by
  induction before with
  | nil => cases rest <;> rfl
  | cons c before ih =>
      have hsize := c.utf8Size_pos
      rcases Nat.exists_eq_add_of_lt hsize with ⟨m, hm⟩
      rw [byteLength_cons, List.cons_append, fromByte,
        show c.utf8Size + byteLength before = m + byteLength before + 1 by omega, fromByte?,
        if_pos (by omega), show m + byteLength before + 1 - c.utf8Size = byteLength before by omega]
      exact ih

-- What a line end alone counts for, where no pair stands.
theorem terminatorSize_cons {c : Char} {behind : List Char} (hend : isLineEnd c = true)
    (hpair : ¬ (c = '\r' ∧ behind.head? = some '\n')) :
    terminatorSize (c :: behind) = byteLength [c] := by
  have hsize : byteLength [c] = 1 := by
    rw [isLineEnd, Bool.or_eq_true, beq_iff_eq, beq_iff_eq] at hend
    rcases hend with rfl | rfl
    · rfl
    · rfl
  rw [hsize, terminatorSize]
  rintro more rfl rfl
  exact hpair ⟨rfl, rfl⟩

/-- The first line of a text goes up to the first line end, and what stands there ends it. -/
theorem exists_terminator {rest : List Char} (hne : rest ≠ []) :
    ∃ text terminator more, rest = text ++ (terminator ++ more) ∧ more.length < rest.length ∧
      splitLines rest = (text, terminator) :: splitLines more ∧
      rest.takeWhile (!isLineEnd ·) = text ∧
      terminatorSize (rest.dropWhile (!isLineEnd ·)) = byteLength terminator := by
  have hsplit := List.takeWhile_append_dropWhile (p := (!isLineEnd ·)) (l := rest)
  have hunbroken : Unbroken (rest.takeWhile (!isLineEnd ·)) := by
    intro c hc
    have hkept := List.mem_takeWhile_imp hc
    rwa [Bool.not_eq_true'] at hkept
  generalize htext : rest.takeWhile (!isLineEnd ·) = text at hsplit hunbroken
  have hlength := congrArg List.length hsplit
  cases hdrop : rest.dropWhile (!isLineEnd ·) with
  | nil =>
      -- The text has no line end, so its only line is the last one.
      rw [hdrop, List.append_nil] at hsplit
      subst hsplit
      exact ⟨text, [], [], by rw [List.append_nil, List.append_nil], List.length_pos_of_ne_nil hne,
        splitLines_unbroken hne hunbroken, rfl, rfl⟩
  | cons c behind =>
      have hend : isLineEnd c = true := by
        have hhead := List.head?_dropWhile_not (!isLineEnd ·) rest
        rw [hdrop] at hhead
        simpa using hhead
      rw [hdrop] at hsplit hlength
      rw [List.length_append, List.length_cons] at hlength
      by_cases hpair : c = '\r' ∧ behind.head? = some '\n'
      · -- The line feed belongs to the carriage return before it.
        rcases hpair with ⟨rfl, hhead⟩
        rcases List.head?_eq_some_iff.mp hhead with ⟨more, rfl⟩
        have hpieces := splitLines_unbroken_append hunbroken (splitLines.eq_2 more)
        rw [List.append_nil, hsplit] at hpieces
        rw [List.length_cons] at hlength
        exact ⟨text, ['\r', '\n'], more, hsplit.symm, by omega, hpieces, rfl, rfl⟩
      · have hpieces := splitLines_unbroken_append hunbroken (splitLines_cons_lineEnd hend hpair)
        rw [List.append_nil, hsplit] at hpieces
        exact ⟨text, [c], behind, hsplit.symm, by omega, hpieces, rfl, terminatorSize_cons hend hpair⟩

/-- A cursor that has got to the rest of a source gives out the lines of that rest. -/
theorem yields_numberLines (before rest : List Char) (number : Nat) :
    Yields (before ++ rest) ⟨byteLength before, number⟩
      (numberLines (number + 1) (byteLength before) (splitLines rest)) := by
  -- Each line takes something from the rest, if only its terminator.
  induction hlength : rest.length using Nat.strongRecOn generalizing before rest number with
  | ind length ih =>
      by_cases hne : rest = []
      · subst hne
        refine .done ?_
        rw [LineCursor.next?, if_pos (by rw [List.append_nil])]
      · rcases exists_terminator hne with
          ⟨text, terminator, more, hrest, hlt, hpieces, htext, hsize⟩
        have hmore := ih _ (hlength ▸ hlt) (before ++ (text ++ terminator)) more (number + 1) rfl
        rw [List.append_assoc, List.append_assoc, ← hrest] at hmore
        have hleft : ¬ byteLength (before ++ rest) ≤ byteLength before := by
          intro hle
          rw [byteLength_append] at hle
          exact hne (byteLength_eq_zero (by omega))
        have hoffset : byteLength (before ++ (text ++ terminator))
            = byteLength before + (byteLength text + byteLength terminator) := by
          rw [byteLength_append, byteLength_append]
        rw [hpieces, numberLines, Nat.add_assoc (byteLength before), ← hoffset]
        refine .line ?_ hmore
        rw [LineCursor.next?, if_neg hleft]
        simp only [fromByte_append, htext, hsize, hoffset]

theorem Yields.unique {source : List Char} {cursor : LineCursor} {lines others : List SourceLine}
    (h : Yields source cursor lines) (h' : Yields source cursor others) : lines = others := by
  induction h generalizing others with
  | done hend =>
      cases h' with
      | done => rfl
      | line hnext _ =>
          rw [hend] at hnext
          cases hnext
  | line hnext _ ih =>
      cases h' with
      | done hend =>
          rw [hend] at hnext
          cases hnext
      | line hnext' hrest' =>
          rw [hnext, Option.some.injEq, Prod.mk.injEq] at hnext'
          rcases hnext' with ⟨rfl, rfl⟩
          rw [ih hrest']

/-! ## The partition -/

/-- A line by its place among the lines. -/
theorem getElem?_numberLines (number offset i : Nat) (pieces : List (List Char × List Char)) :
    (numberLines number offset pieces)[i]? = pieces[i]?.map fun piece =>
      ⟨number + i, offset + byteLength (joined (pieces.take i)), piece.1⟩ := by
  induction pieces generalizing number offset i with
  | nil => rfl
  | cons piece pieces ih =>
      rw [numberLines]
      cases i with
      | zero => rfl
      | succ i =>
          rw [List.getElem?_cons_succ, List.getElem?_cons_succ, ih, List.take_succ_cons, joined_cons,
            byteLength_append, byteLength_append]
          simp only [Nat.add_assoc, Nat.add_comm 1 i]

theorem map_text_numberLines (number offset : Nat) (pieces : List (List Char × List Char)) :
    (numberLines number offset pieces).map SourceLine.text = pieces.map Prod.fst := by
  induction pieces generalizing number offset with
  | nil => rfl
  | cons piece pieces ih => rw [numberLines, List.map_cons, ih, List.map_cons]

-- A line of a source among the pieces of it.
theorem exists_piece_of_getElem? {source : List Char} {i : Nat} {line : SourceLine}
    (h : (sourceLines source)[i]? = some line) :
    ∃ terminator, (splitLines source)[i]? = some (line.text, terminator) ∧
      line.number = i + 1 ∧ line.offset = byteLength (joined ((splitLines source).take i)) ∧
      splitLines source = (splitLines source).take i ++
        (line.text, terminator) :: (splitLines source).drop (i + 1) := by
  rw [sourceLines, getElem?_numberLines, Option.map_eq_some_iff] at h
  rcases h with ⟨⟨text, terminator⟩, hpiece, rfl⟩
  refine ⟨terminator, hpiece, Nat.add_comm 1 i, Nat.zero_add _, ?_⟩
  rcases List.getElem?_eq_some_iff.mp hpiece with ⟨hlt, hget⟩
  rw [← hget, ← List.drop_eq_getElem_cons hlt, List.take_append_drop]

/-- The lines of a source make it up, with the terminators of its pieces. -/
theorem partitions_sourceLines (source : List Char) :
    Partitions source (sourceLines source) ((splitLines source).map Prod.snd) where
  length_eq := by rw [List.length_map, sourceLines, length_numberLines]
  joined_eq := by
    rw [sourceLines, map_text_numberLines, List.zip_map']
    exact (congrArg joined (List.map_id' _)).trans (joined_splitLines source)
  number_eq := by
    intro i line h
    rcases exists_piece_of_getElem? h with ⟨_, _, hnumber, _⟩
    exact hnumber
  unbroken := fun line h => unbroken_iff.mp (unbroken_of_mem_sourceLines h)
  first_offset := by
    intro line h
    rcases exists_piece_of_getElem? h with ⟨_, _, _, hoffset, _⟩
    rw [hoffset]
    rfl
  next_offset := by
    intro i line terminator next hline hterminator hnext
    rcases exists_piece_of_getElem? hline with ⟨terminator', hpiece, _, hoffset, _⟩
    rcases exists_piece_of_getElem? hnext with ⟨_, _, _, hoffset', _⟩
    rw [List.getElem?_map, hpiece, Option.map_some, Option.some.injEq] at hterminator
    subst hterminator
    rw [hoffset', hoffset, List.take_add_one, hpiece, Option.toList_some, joined_append, joined_cons]
    simp only [byteLength_append, Nat.add_assoc]
    rfl
  offset_lt := by
    intro line h
    rcases exists_pieces_of_mem_sourceLines h with ⟨front, terminator, rest, hpieces, _, hoffset⟩
    have hcut := wellCut_splitLines source
    rw [hpieces] at hcut
    -- A piece is never empty, so there is a byte behind the offset.
    have hpos : byteLength (line.text ++ terminator) ≠ 0 := by
      intro hzero
      exact hcut.of_append.piece_ne_nil (byteLength_eq_zero hzero)
    rw [hoffset, ← joined_splitLines source, hpieces, joined_append, joined_cons,
      byteLength_append, byteLength_append _ (joined rest)]
    simp only
    omega
  placed := by
    intro i line terminator hline hterminator
    rcases exists_piece_of_getElem? hline with ⟨terminator', hpiece, _, hoffset, hpieces⟩
    rw [List.getElem?_map, hpiece, Option.map_some, Option.some.injEq] at hterminator
    subst hterminator
    rcases List.getElem?_eq_some_iff.mp hpiece with ⟨hlt, _⟩
    have hcut := wellCut_splitLines source
    rw [hpieces] at hcut
    have hlast : (splitLines source).drop (i + 1) = [] ↔ i + 1 = (sourceLines source).length := by
      rw [List.drop_eq_nil_iff, sourceLines, length_numberLines]
      omega
    refine ⟨joined ((splitLines source).take i), joined ((splitLines source).drop (i + 1)), ?_,
      hoffset, ?_, ?_⟩
    · conv_lhs => rw [← joined_splitLines source, hpieces, joined_append, joined_cons]
      simp only [List.append_assoc]
    · rcases hcut.of_append.ends with ⟨hends, hseam⟩ | ⟨hends, hrest⟩
      · exact Or.inl ⟨hends, hseam⟩
      · exact Or.inr ⟨hends, by rw [hrest]; rfl, hlast.mp hrest⟩
    · rw [hcut.of_append.of_cons.joined_eq_nil_iff]
      exact hlast

/-- Lines are taken from a source one after the other until nothing is left of it, and then they
    and their terminators make it up. With another text behind it, where a line break stands
    between the two, its lines come first and then those of the other, moved behind them. -/
theorem lines_partition (source : List Char) :
    (∀ lines, Yields source ⟨0, 0⟩ lines ↔ lines = sourceLines source) ∧
      (∃ terminators, Partitions source (sourceLines source) terminators) ∧
      ∀ after, Breaks source after →
        sourceLines (source ++ after)
          = sourceLines source ++ (sourceLines after).map
              (SourceLine.moved (sourceLines source).length (byteLength source)) := by
  have hyields : Yields source ⟨0, 0⟩ (sourceLines source) := yields_numberLines [] source 0
  refine ⟨fun lines => ⟨fun h => h.unique hyields, ?_⟩, ⟨_, partitions_sourceLines source⟩,
    fun after hbreaks => sourceLines_append hbreaks⟩
  rintro rfl
  exact hyields

/-- Two carriage returns in a row, the second with its line feed. Behind the pair another carriage
    return ends an empty line, and the last line has no terminator. -/
theorem lines_partition_returns :
    Yields "é\r\r\n".toList ⟨0, 0⟩ [⟨1, 0, ['é']⟩, ⟨2, 3, []⟩] ∧
      (∃ terminators, Partitions "é\r\r\n".toList [⟨1, 0, ['é']⟩, ⟨2, 3, []⟩] terminators) ∧
      Breaks "é\r\r\n".toList "\rb".toList ∧
      sourceLines ("é\r\r\n".toList ++ "\rb".toList)
        = [⟨1, 0, ['é']⟩, ⟨2, 3, []⟩] ++ [⟨1 + 2, 0 + 5, []⟩, ⟨2 + 2, 1 + 5, ['b']⟩] := by
  have hlines : sourceLines "é\r\r\n".toList = [⟨1, 0, ['é']⟩, ⟨2, 3, []⟩] := by decide
  have hafter : sourceLines "\rb".toList = [⟨1, 0, []⟩, ⟨2, 1, ['b']⟩] := by decide
  have hbreaks : Breaks "é\r\r\n".toList "\rb".toList :=
    Or.inr ⟨'\n', by decide, by decide, by decide⟩
  rcases lines_partition "é\r\r\n".toList with ⟨hyields, hpartitions, happend⟩
  have hjoined := happend "\rb".toList hbreaks
  rw [hlines] at hyields hpartitions hjoined
  rw [hafter] at hjoined
  exact ⟨(hyields _).mpr rfl, hpartitions, hbreaks, hjoined⟩

end TagNesting
