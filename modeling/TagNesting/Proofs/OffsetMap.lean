import TagNesting.Proofs.StrippedLine

/-!
# The Offset Map

The map from a stripped line back to the line, byte by byte. Offsets can be any number:
one may lie inside a character, and one may lie past the end. A byte of the stripped text
is taken to the very byte of the line that it was kept from, and not to another of the same
value: what stands before the two is the same, once the block comments are out of it.

The map is found through the `anchors`, the places at which a run begins in the text and in
the line. Several runs can begin at the same byte of the text, for a run between two
comments that follow each other at once is empty, and those that the slashes cut off begin
past its end. Still the anchors are in order and the first is at zero, so for every offset
they fall into those at or before it, of which there is one at least, and those behind it.
The last of the former is the one that counts.

## Main definitions

* `bytesOf`: A text in bytes.
* `bytesOutside`: The bytes that lie in none of some ranges.
* `bytesBetween`: The bytes between two offsets.
* `Anchor`, `StrippedLine.anchors`: Where the runs of a line begin.
* `MapsOffsets`, `MapsRanges`: The map is faithful to offsets, and to ranges of them.

## Theorems

* `Strips.exists_image`: The image of a byte.
* `exists_anchor`: The anchor of an offset.
* `mapsOffsets_ofText`: A stripped line maps its offsets back.
* `mapsRanges_of_mapsOffsets`: What maps offsets back maps ranges back.
* `offsetMap_ofText`: The offset map of a line is faithful.
-/

namespace TagNesting

/-- A text in bytes of UTF-8. -/
def bytesOf (text : List Char) : List UInt8 := text.flatMap String.utf8EncodeChar

/-- The bytes, the first of which stands at `position`, that lie in none of the ranges. -/
def bytesOutside (ranges : List (Nat × Nat)) : (position : Nat) → List UInt8 → List UInt8
  | _, [] => []
  | position, byte :: rest =>
      if inRange ranges position then bytesOutside ranges (position + 1) rest
      else byte :: bytesOutside ranges (position + 1) rest

/-- The bytes from offset `first` to just before offset `last`. -/
def bytesBetween (first last : Nat) (bytes : List UInt8) : List UInt8 :=
  (bytes.take last).drop first

/-- Where a run begins, in the text of the runs and in the line. -/
structure Anchor where
  inText : Nat
  inLine : Nat
  deriving DecidableEq, Repr

/-- The anchors of runs, the first of which begins at byte `offset` of the text. -/
def anchorsFrom : (offset : Nat) → List Run → List Anchor
  | _, [] => []
  | offset, run :: runs => ⟨offset, run.start⟩ :: anchorsFrom (offset + byteLength run.text) runs

/-- The anchors of a stripped line. -/
def StrippedLine.anchors (line : StrippedLine) : List Anchor := anchorsFrom 0 line.runs

/-- The map from a stripped line to the line is faithful to offsets. -/
structure MapsOffsets (line : List Char) (stripped : StrippedLine) : Prop where
  /-- A byte of the text is taken to an equal byte of the line. -/
  byte_eq : ∀ n, n < byteLength stripped.text →
    (bytesOf line)[stripped.position n]? = (bytesOf stripped.text)[n]?
  /-- That byte is the one the text has it from: what the block comments leave before it in the
      line is what stands before it in the text. -/
  front_eq : ∀ n, n < byteLength stripped.text →
    bytesOutside (removedRanges stripped.runs) 0 ((bytesOf line).take (stripped.position n))
      = (bytesOf stripped.text).take n
  /-- It lies in no comment. -/
  not_inRange : ∀ n, n < byteLength stripped.text →
    inRange (removedRanges stripped.runs) (stripped.position n) = false
  /-- Of any two offsets the later one is taken further. -/
  lt_of_lt : ∀ m n, m < n → stripped.position m < stripped.position n
  /-- No offset is taken back. -/
  le_position : ∀ n, n ≤ stripped.position n
  /-- The distance by which offsets are moved never decreases. -/
  sub_le_sub : ∀ m n, m ≤ n → stripped.position m - m ≤ stripped.position n - n
  /-- The anchors are in order, and the first is at zero. -/
  ordered : (stripped.anchors.map Anchor.inText).Pairwise (· ≤ ·) ∧
    stripped.anchors.head?.map Anchor.inText = some 0
  /-- For every offset the anchors fall into those at or before it and those behind it. There is
      a last one of the former, and the offset lies as far behind it in the line as it does in
      the text. -/
  exists_anchor : ∀ n, ∃ before anchor behind,
    stripped.anchors = before ++ anchor :: behind ∧
      (∀ other ∈ before, other.inText ≤ n) ∧ anchor.inText ≤ n ∧
      (∀ other ∈ behind, n < other.inText) ∧
      stripped.position n = anchor.inLine + (n - anchor.inText)

/-- The map from a stripped line to the line is faithful to ranges that hold a byte. -/
structure MapsRanges (line : List Char) (stripped : StrippedLine) : Prop where
  /-- The image of a range covers the images of its bytes. -/
  covers : ∀ first last n, first ≤ n → n < last →
    (stripped.range first last).1 ≤ stripped.position n ∧
      stripped.position n < (stripped.range first last).2
  /-- Any other range that covers them holds it. -/
  tightest : ∀ first last low high, first < last →
    (∀ n, first ≤ n → n < last → low ≤ stripped.position n ∧ stripped.position n < high) →
      low ≤ (stripped.range first last).1 ∧ (stripped.range first last).2 ≤ high
  /-- A comment that it meets is all in it. -/
  whole : ∀ first last, first < last → last ≤ byteLength stripped.text →
    ∀ range ∈ removedRanges stripped.runs, range.2 ≤ (stripped.range first last).1 ∨
      (stripped.range first last).2 ≤ range.1 ∨
      ((stripped.range first last).1 ≤ range.1 ∧ range.2 ≤ (stripped.range first last).2)
  /-- Without these comments it is the range of the text. -/
  outside_eq : ∀ first last, first < last → last ≤ byteLength stripped.text →
    bytesOutside (removedRanges stripped.runs) (stripped.range first last).1
        (bytesBetween (stripped.range first last).1 (stripped.range first last).2 (bytesOf line))
      = bytesBetween first last (bytesOf stripped.text)
  /-- Ranges of which one ends before the other begins have images of which that is true. -/
  disjoint : ∀ first last first' last', first < last → last ≤ first' → first' < last' →
    (stripped.range first last).2 ≤ (stripped.range first' last').1

/-! ## Bytes -/

theorem bytesOf_cons (c : Char) (text : List Char) :
    bytesOf (c :: text) = String.utf8EncodeChar c ++ bytesOf text := rfl

theorem bytesOf_append (text more : List Char) :
    bytesOf (text ++ more) = bytesOf text ++ bytesOf more := List.flatMap_append

theorem length_bytesOf (text : List Char) : (bytesOf text).length = byteLength text := by
  induction text with
  | nil => rfl
  | cons c text ih =>
      rw [bytesOf_cons, List.length_append, String.length_utf8EncodeChar, ih, byteLength_cons]

/-- The bytes up to one offset and those from there to another are those up to the other. -/
theorem take_append_bytesBetween {first last : Nat} (h : first ≤ last) (bytes : List UInt8) :
    bytes.take first ++ bytesBetween first last bytes = bytes.take last := by
  have hsplit := List.take_append_drop first (bytes.take last)
  rwa [List.take_take, Nat.min_eq_left h] at hsplit

/-- What lies outside of ranges is found part by part, each at its own place. -/
theorem bytesOutside_append (ranges : List (Nat × Nat)) (position : Nat) (bytes more : List UInt8) :
    bytesOutside ranges position (bytes ++ more)
      = bytesOutside ranges position bytes ++ bytesOutside ranges (position + bytes.length) more := by
  induction bytes generalizing position with
  | nil => rfl
  | cons byte rest ih =>
      rw [List.cons_append, bytesOutside, bytesOutside, ih, List.length_cons]
      rw [show position + 1 + rest.length = position + (rest.length + 1) by omega]
      split
      · rfl
      · rfl

/-- Bytes of which none lies in a range all remain. -/
theorem bytesOutside_eq_self {ranges : List (Nat × Nat)} {position : Nat} {bytes : List UInt8}
    (h : ∀ n, position ≤ n → n < position + bytes.length → inRange ranges n = false) :
    bytesOutside ranges position bytes = bytes := by
  induction bytes generalizing position with
  | nil => rfl
  | cons byte rest ih =>
      rw [List.length_cons] at h
      rw [bytesOutside, h position (Nat.le_refl _) (by omega), if_neg Bool.false_ne_true]
      rw [ih fun n hle hlt => h n (by omega) (by omega)]

/-- Bytes that all lie in ranges are gone. -/
theorem bytesOutside_eq_nil {ranges : List (Nat × Nat)} {position : Nat} {bytes : List UInt8}
    (h : ∀ n, position ≤ n → n < position + bytes.length → inRange ranges n = true) :
    bytesOutside ranges position bytes = [] := by
  induction bytes generalizing position with
  | nil => rfl
  | cons byte rest ih =>
      rw [List.length_cons] at h
      rw [bytesOutside, h position (Nat.le_refl _) (by omega), if_pos rfl]
      exact ih fun n hle hlt => h n (by omega) (by omega)

-- A range that ends at or before some bytes takes nothing from them.
theorem bytesOutside_cons_of_le {range : Nat × Nat} {position : Nat} (h : range.2 ≤ position)
    (ranges : List (Nat × Nat)) (bytes : List UInt8) :
    bytesOutside (range :: ranges) position bytes = bytesOutside ranges position bytes := by
  induction bytes generalizing position with
  | nil => rfl
  | cons byte rest ih =>
      have hnot : ¬ (range.1 ≤ position ∧ position < range.2) := by omega
      rw [bytesOutside, bytesOutside, inRange_cons, decide_eq_false hnot, Bool.false_or,
        ih (by omega)]

/-! ## The image of a byte -/

/-- The image of a byte of the text of the runs: an equal byte of the line that lies in no
    comment, and before it the same bytes once the comments are out. -/
theorem Strips.exists_image {position : Nat} {text : List Char} {runs : List Run}
    (h : Strips position text runs) {n : Nat} (hn : n < byteLength (runs.flatMap Run.text)) :
    ∃ distance, StrippedLine.positionIn runs n = position + distance ∧
      (bytesOf text)[distance]? = (bytesOf (runs.flatMap Run.text))[n]? ∧
      bytesOutside (removedRanges runs) position ((bytesOf text).take distance)
        = (bytesOf (runs.flatMap Run.text)).take n ∧
      inRange (removedRanges runs) (position + distance) = false := by
  induction h generalizing n with
  | done position => exact absurd hn (Nat.not_lt_zero n)
  | @kept position c rest run runs _ hrest ih =>
      have hsize := String.length_utf8EncodeChar c
      have hkept : (List.flatMap Run.text (⟨position, c :: run.text⟩ :: runs))
          = c :: List.flatMap Run.text (run :: runs) := rfl
      -- No range takes a byte of the character.
      have hself : ∀ k, bytesOutside (removedRanges (run :: runs)) position
          ((String.utf8EncodeChar c).take k) = (String.utf8EncodeChar c).take k := by
        intro k
        refine bytesOutside_eq_self fun m _ hm => hrest.inRange_eq_false ?_
        rw [List.length_take] at hm
        omega
      rw [hrest.positionIn_kept, hrest.removedRanges_kept, hkept, bytesOf_cons, bytesOf_cons]
      rw [hkept, byteLength_cons] at hn
      by_cases hbehind : c.utf8Size ≤ n
      · -- The byte is one of a later character.
        rcases ih (n := n - c.utf8Size) (by omega) with ⟨distance, hposition, hbyte, hfront, hrange⟩
        refine ⟨c.utf8Size + distance, ?_, ?_, ?_, ?_⟩
        · rw [if_pos hbehind, hposition, Nat.add_assoc]
        · rw [List.getElem?_append_right (by omega), List.getElem?_append_right (by omega), hsize,
            Nat.add_sub_cancel_left, hbyte]
        · have hall := hself (String.utf8EncodeChar c).length
          rw [List.take_length] at hall
          rw [List.take_append, List.take_append, List.take_of_length_le (i := n) (by omega),
            List.take_of_length_le (by omega), bytesOutside_append, hall, hsize,
            Nat.add_sub_cancel_left, hfront]
        · rw [← Nat.add_assoc]
          exact hrange
      · -- The byte is one of the character itself.
        refine ⟨n, if_neg hbehind, ?_, ?_, hrest.inRange_eq_false (by omega)⟩
        · rw [List.getElem?_append_left (by omega), List.getElem?_append_left (by omega)]
        · rw [List.take_append_of_le_length (by omega), List.take_append_of_le_length (by omega),
            hself]
  | @comment position comment rest runs _ hrest ih =>
      rcases ih hn with ⟨distance, hposition, hbyte, hfront, hrange⟩
      have hsize := length_bytesOf comment
      rw [hrest.positionIn_comment, hrest.removedRanges_comment, bytesOf_append]
      refine ⟨byteLength comment + distance, by rw [hposition, Nat.add_assoc], ?_, ?_, ?_⟩
      · rw [List.getElem?_append_right (by omega), hsize, Nat.add_sub_cancel_left]
        exact hbyte
      · -- The comment is taken out whole.
        have hnil : bytesOutside ((position, position + byteLength comment) :: removedRanges runs)
            position (bytesOf comment) = [] := by
          refine bytesOutside_eq_nil fun m hle hlt => ?_
          rw [inRange_cons, decide_eq_true ⟨hle, by omega⟩, Bool.true_or]
        rw [List.take_append, List.take_of_length_le (by omega), bytesOutside_append, hnil, hsize,
          Nat.add_sub_cancel_left, bytesOutside_cons_of_le (Nat.le_refl _)]
        exact hfront
      · rw [inRange_cons, decide_eq_false (by omega), Bool.false_or, ← Nat.add_assoc]
        exact hrange

/-! ## Anchors -/

/-- No anchor lies before the place where the search for anchors begins. -/
theorem le_of_mem_anchorsFrom {offset : Nat} {runs : List Run} {anchor : Anchor}
    (h : anchor ∈ anchorsFrom offset runs) : offset ≤ anchor.inText := by
  induction runs generalizing offset with
  | nil => exact absurd h List.not_mem_nil
  | cons run runs ih =>
      rcases List.mem_cons.mp h with rfl | hmem
      · exact Nat.le_refl _
      · have hle := ih hmem
        omega

/-- The anchors come in the order of the text. -/
theorem pairwise_anchorsFrom (offset : Nat) (runs : List Run) :
    ((anchorsFrom offset runs).map Anchor.inText).Pairwise (· ≤ ·) := by
  induction runs generalizing offset with
  | nil => exact List.Pairwise.nil
  | cons run runs ih =>
      rw [anchorsFrom, List.map_cons, List.pairwise_cons]
      refine ⟨fun n hn => ?_, ih _⟩
      rcases List.mem_map.mp hn with ⟨anchor, hanchor, rfl⟩
      have hle := le_of_mem_anchorsFrom hanchor
      simp only
      omega

/-- The anchor of an offset: it is the last one at or before it, and the map leads from there. -/
theorem exists_anchor {runs : List Run} (hne : runs ≠ []) {offset n : Nat} (hle : offset ≤ n) :
    ∃ before anchor behind, anchorsFrom offset runs = before ++ anchor :: behind ∧
      (∀ other ∈ before, other.inText ≤ n) ∧ anchor.inText ≤ n ∧
      (∀ other ∈ behind, n < other.inText) ∧
      StrippedLine.positionIn runs (n - offset) = anchor.inLine + (n - anchor.inText) := by
  induction runs generalizing offset with
  | nil => exact absurd rfl hne
  | cons run runs ih =>
      cases runs with
      | nil =>
          exact ⟨[], ⟨offset, run.start⟩, [], rfl, fun _ h => absurd h List.not_mem_nil, hle,
            fun _ h => absurd h List.not_mem_nil, rfl⟩
      | cons next runs =>
          rw [anchorsFrom, StrippedLine.positionIn]
          by_cases hrun : byteLength run.text ≤ n - offset
          · -- The offset lies behind this run, so the anchor is that of a later one.
            have hle' : offset + byteLength run.text ≤ n := by omega
            rcases ih (List.cons_ne_nil _ _) hle' with
              ⟨before, anchor, behind, hanchors, hbefore, hanchor, hbehind, hposition⟩
            refine ⟨⟨offset, run.start⟩ :: before, anchor, behind, by rw [hanchors]; rfl, ?_,
              hanchor, hbehind, ?_⟩
            · intro other hmem
              rcases List.mem_cons.mp hmem with rfl | hmem
              · exact hle
              · exact hbefore other hmem
            · rw [if_pos hrun, Nat.sub_sub]
              exact hposition
          · -- It lies in this run, and all later runs begin behind it.
            refine ⟨[], ⟨offset, run.start⟩, _, rfl, fun _ h => absurd h List.not_mem_nil, hle, ?_,
              if_neg hrun⟩
            intro other hmem
            have hother := le_of_mem_anchorsFrom hmem
            omega

/-! ## The map of a line -/

/-- A stripped line maps its offsets back to the line. -/
theorem mapsOffsets_ofText (line : List Char) : MapsOffsets line (StrippedLine.ofText line) := by
  have hstrips := strips_ofText line
  rcases hstrips.exists_cons with ⟨kept, more, hruns⟩
  rcases exists_append_beforeSlashes ((StrippedLine.ofText line).runs.flatMap Run.text)
    with ⟨cut, hcut⟩
  change _ = (StrippedLine.ofText line).text ++ cut at hcut
  -- The text is what comes first in the text of the runs, so its bytes are bytes of that.
  have himage : ∀ n, n < byteLength (StrippedLine.ofText line).text →
      (bytesOf line)[(StrippedLine.ofText line).position n]?
          = (bytesOf (StrippedLine.ofText line).text)[n]? ∧
        bytesOutside (removedRanges (StrippedLine.ofText line).runs) 0
            ((bytesOf line).take ((StrippedLine.ofText line).position n))
          = (bytesOf (StrippedLine.ofText line).text).take n ∧
        inRange (removedRanges (StrippedLine.ofText line).runs)
          ((StrippedLine.ofText line).position n) = false := by
    intro n hn
    have hlength := length_bytesOf (StrippedLine.ofText line).text
    have hlt : n < byteLength ((StrippedLine.ofText line).runs.flatMap Run.text) := by
      rw [hcut, byteLength_append]
      omega
    rcases hstrips.exists_image hlt with ⟨distance, hposition, hbyte, hfront, hrange⟩
    rw [Nat.zero_add] at hposition hrange
    rw [hcut, bytesOf_append] at hbyte hfront
    rw [List.getElem?_append_left (by omega)] at hbyte
    rw [List.take_append_of_le_length (by omega)] at hfront
    rw [StrippedLine.position, hposition]
    exact ⟨hbyte, hfront, hrange⟩
  have hadd : ∀ m n, m ≤ n → (StrippedLine.ofText line).position m + (n - m)
      ≤ (StrippedLine.ofText line).position n := fun m n hle => hstrips.positionIn_add_le hle
  have hle : ∀ n, n ≤ (StrippedLine.ofText line).position n := by
    intro n
    have hmoved := hstrips.add_le_positionIn n
    rwa [Nat.zero_add] at hmoved
  exact {
    byte_eq := fun n hn => (himage n hn).1
    front_eq := fun n hn => (himage n hn).2.1
    not_inRange := fun n hn => (himage n hn).2.2
    lt_of_lt := by
      intro m n hlt
      have hmn := hadd m n (Nat.le_of_lt hlt)
      omega
    le_position := hle
    sub_le_sub := by
      intro m n hmn
      have hsum := hadd m n hmn
      have hm := hle m
      omega
    ordered := ⟨pairwise_anchorsFrom 0 _, by rw [StrippedLine.anchors, hruns]; rfl⟩
    exists_anchor := fun n =>
      exists_anchor (by rw [hruns]; exact List.cons_ne_nil _ _) (Nat.zero_le n) }

/-- A range that is not empty goes up to behind its last byte. -/
theorem range_of_lt {stripped : StrippedLine} {first last : Nat} (h : first < last) :
    stripped.range first last = (stripped.position first, stripped.position (last - 1) + 1) := by
  rw [StrippedLine.range, if_neg (Nat.not_le_of_lt h)]

/-- The map keeps the order of offsets. -/
theorem MapsOffsets.le_of_le {line : List Char} {stripped : StrippedLine}
    (h : MapsOffsets line stripped) {m n : Nat} (hle : m ≤ n) :
    stripped.position m ≤ stripped.position n := by
  rcases Nat.lt_or_eq_of_le hle with hlt | rfl
  · exact Nat.le_of_lt (h.lt_of_lt m n hlt)
  · exact Nat.le_refl _

-- The bytes at an offset and at its image, as bytes that are there.
theorem MapsOffsets.exists_getElem {line : List Char} {stripped : StrippedLine}
    (h : MapsOffsets line stripped) {n : Nat} (hn : n < byteLength stripped.text) :
    ∃ (hline : stripped.position n < (bytesOf line).length)
      (htext : n < (bytesOf stripped.text).length),
      (bytesOf line)[stripped.position n] = (bytesOf stripped.text)[n] := by
  have hbyte := h.byte_eq n hn
  rw [← length_bytesOf] at hn
  rw [List.getElem?_eq_getElem hn, List.getElem?_eq_some_iff] at hbyte
  rcases hbyte with ⟨hline, hbyte⟩
  exact ⟨hline, hn, hbyte⟩

-- What the comments leave of the line up to and with the image of a byte.
theorem MapsOffsets.bytesOutside_take_succ {line : List Char} {stripped : StrippedLine}
    (h : MapsOffsets line stripped) {n : Nat} (hn : n < byteLength stripped.text) :
    bytesOutside (removedRanges stripped.runs) 0 ((bytesOf line).take (stripped.position n + 1))
      = (bytesOf stripped.text).take (n + 1) := by
  rcases h.exists_getElem hn with ⟨hline, htext, hbyte⟩
  rw [List.take_succ_eq_append_getElem hline, bytesOutside_append, h.front_eq n hn,
    List.length_take_of_le (Nat.le_of_lt hline), Nat.zero_add, bytesOutside, h.not_inRange n hn,
    if_neg Bool.false_ne_true, hbyte, bytesOutside, List.take_succ_eq_append_getElem htext]

/-- What maps offsets back maps ranges back: the image of a range goes from the image of its first
    byte to just behind that of its last. -/
theorem mapsRanges_of_mapsOffsets {line : List Char} {stripped : StrippedLine}
    (h : MapsOffsets line stripped) : MapsRanges line stripped where
  covers := by
    intro first last n hfirst hlast
    have hle := h.le_of_le hfirst
    have hge := h.le_of_le (show n ≤ last - 1 by omega)
    rw [range_of_lt (by omega)]
    exact ⟨hle, by simp only; omega⟩
  tightest := by
    intro first last low high hlt hcovers
    rw [range_of_lt hlt]
    exact ⟨(hcovers first (Nat.le_refl _) hlt).1, (hcovers (last - 1) (by omega) (by omega)).2⟩
  whole := by
    intro first last hlt hlast range hmem
    rw [range_of_lt hlt]
    -- Neither the first byte nor the last lies in the comment.
    have hfirst := h.not_inRange first (by omega)
    have hend := h.not_inRange (last - 1) (by omega)
    rw [inRange, List.any_eq_false] at hfirst hend
    have hfirst' := hfirst range hmem
    have hend' := hend range hmem
    simp only [Bool.and_eq_true, decide_eq_true_eq] at hfirst' hend' ⊢
    omega
  outside_eq := by
    intro first last hlt hlast
    rw [range_of_lt hlt]
    simp only
    have hend := h.bytesOutside_take_succ (n := last - 1) (by omega)
    rw [show last - 1 + 1 = last by omega] at hend
    have hle := h.le_of_le (show first ≤ last - 1 by omega)
    have hstart := h.front_eq first (by omega)
    rcases h.exists_getElem (n := first) (by omega) with ⟨hline, _, _⟩
    -- Both sides begin with what stands before the range, and that is the same.
    rw [← take_append_bytesBetween (Nat.le_of_lt hlt),
      ← take_append_bytesBetween (Nat.le_succ_of_le hle), bytesOutside_append, hstart,
      List.append_cancel_left_eq, List.length_take_of_le (Nat.le_of_lt hline),
      Nat.zero_add] at hend
    exact hend
  disjoint := by
    intro first last first' last' hlt hle hlt'
    have hmono := h.lt_of_lt (last - 1) first' (by omega)
    rw [range_of_lt hlt, range_of_lt hlt']
    exact hmono

/-- The offset map of a line is faithful, to every offset and to every range. -/
theorem offsetMap_ofText (line : List Char) :
    MapsOffsets line (StrippedLine.ofText line) ∧ MapsRanges line (StrippedLine.ofText line) :=
  ⟨mapsOffsets_ofText line, mapsRanges_of_mapsOffsets (mapsOffsets_ofText line)⟩

/-- A comment at the front and two that follow each other at once, so that anchors share their
    byte, and a range that begins inside a character. -/
theorem offsetMap_ofText_ties :
    (StrippedLine.ofText "\x7b/**/\x7dé\x7b/**/\x7d\x7b/**/\x7db//c".toList).anchors
        = [⟨0, 0⟩, ⟨0, 6⟩, ⟨2, 14⟩, ⟨2, 20⟩] ∧
      (bytesOf "\x7b/**/\x7dé\x7b/**/\x7d\x7b/**/\x7db//c".toList)[20]? = some 98 ∧
      bytesOutside [(0, 6), (8, 14), (14, 20)] 7
          (bytesBetween 7 21 (bytesOf "\x7b/**/\x7dé\x7b/**/\x7d\x7b/**/\x7db//c".toList))
        = bytesBetween 1 3 (bytesOf "éb".toList) := by
  have htext : (StrippedLine.ofText "\x7b/**/\x7dé\x7b/**/\x7d\x7b/**/\x7db//c".toList).text
      = "éb".toList := by decide
  have hposition : (StrippedLine.ofText
      "\x7b/**/\x7dé\x7b/**/\x7d\x7b/**/\x7db//c".toList).position 2 = 20 := by decide
  have hrange : (StrippedLine.ofText
      "\x7b/**/\x7dé\x7b/**/\x7d\x7b/**/\x7db//c".toList).range 1 3 = (7, 21) := by decide
  have hremoved : removedRanges (StrippedLine.ofText
      "\x7b/**/\x7dé\x7b/**/\x7d\x7b/**/\x7db//c".toList).runs = [(0, 6), (8, 14), (14, 20)] := by
    decide
  rcases offsetMap_ofText "\x7b/**/\x7dé\x7b/**/\x7d\x7b/**/\x7db//c".toList with
    ⟨hoffsets, hranges⟩
  have hbyte := hoffsets.byte_eq 2 (by rw [htext]; decide)
  have houtside := hranges.outside_eq 1 3 (by decide) (by rw [htext]; decide)
  rw [hposition, htext] at hbyte
  rw [hrange, hremoved, htext] at houtside
  exact ⟨by decide, hbyte, houtside⟩

end TagNesting
