import TagNesting.Proofs.Canvas

/-!
# Headings

What the picture of a diagnostic begins with. Its first row has the code in brackets and the
message behind it, and since all else is drawn further down it keeps them. So whatever
excerpt follows, the text of a picture is a heading, a line end and the rest, with colours
and without.

A message of several lines would go on in the next row. One without a line end is all in the
first.

## Main definitions

* `inked`: A text in one ink.
* `headingLine`: The first line of a diagnostic.

## Theorems

* `row_append`: A text drawn behind what is in a row.
* `row_drawHeading`, `row_picture`: The first row of a picture.
* `rowText_heading`: That row as text.
* `exists_render_eq`: A diagnostic begins with its heading.
-/

namespace TagNesting

/-- A text in one ink. -/
def inked (ink : Ink) (text : List Char) : List Cell := text.map (⟨·, ink⟩)

/-- The code and the message of a diagnostic as the first line that is shown of it. -/
def headingLine (coloured : Bool) (code message : List Char) : List Char :=
  let title := "error[".toList ++ code ++ [']']
  let sentence := [':', ' '] ++ shownText message
  if coloured then
    Ink.fault.turnOn ++ title ++ Ink.fault.turnOff
      ++ (Ink.heading.turnOn ++ sentence ++ Ink.heading.turnOff)
  else title ++ sentence

namespace Canvas

-- A cell drawn just behind a row makes it longer by that cell.
theorem row_put_size (canvas : Canvas) (r : Nat) (c : Char) (ink : Ink) :
    (canvas.put r (canvas.row r).size c ink).row r = (canvas.row r).push ⟨c, ink⟩ := by
  rw [put, row_setRow, padRow, Nat.add_sub_cancel_left]
  refine Array.ext' ?_
  rw [Array.toList_setIfInBounds, Array.toList_append, Array.toList_replicate,
    Array.toList_push, ← Array.length_toList, List.set_append_right _ _ (Nat.le_refl _),
    Nat.sub_self]
  rfl

/-- A text drawn behind what is in a row is what the row goes on with. -/
theorem row_append (canvas : Canvas) (r : Nat) (text : List Char) (ink : Ink) :
    (canvas.append r text ink).row r = canvas.row r ++ (inked ink text).toArray := by
  rw [append, write]
  induction text generalizing canvas with
  | nil => exact Array.append_empty.symm
  | cons c rest ih =>
      have hput := row_put_size canvas r c ink
      have hrest := ih (canvas.put r (canvas.row r).size c ink)
      rw [hput, Array.size_push] at hrest
      rw [List.foldl_cons, hrest]
      refine Array.ext' ?_
      simp only [Array.toList_append, Array.toList_push, inked, List.map_cons, List.append_assoc,
        List.singleton_append]

-- A row with something in it is one that the canvas has.
theorem height_pos {canvas : Canvas} {r : Nat} (h : canvas.row r ≠ #[]) : r < canvas.height := by
  refine Nat.lt_of_not_le fun hge => h ?_
  rw [row, Array.getD_eq_getD_getElem?, Array.getElem?_eq_none hge]
  rfl

-- Cells in the ink that is on already need no change of colour.
theorem colouredCells_inked (ink : Ink) (text : List Char) (rest : List Cell) :
    colouredCells ink (inked ink text ++ rest) = text ++ colouredCells ink rest := by
  induction text with
  | nil => rfl
  | cons c text ih =>
      rw [inked, List.map_cons, List.cons_append, colouredCells, if_pos rfl, List.cons_append]
      exact congrArg (c :: ·) ih

-- The first of some cells in another ink turns the one off and the other on.
theorem colouredCells_change {current ink : Ink} (hne : ink ≠ current) (c : Char)
    (text : List Char) (rest : List Cell) :
    colouredCells current (inked ink (c :: text) ++ rest)
      = current.turnOff ++ ink.turnOn ++ (c :: text ++ colouredCells ink rest) := by
  rw [inked, List.map_cons, List.cons_append, colouredCells, if_neg hne]
  exact congrArg (fun cells => current.turnOff ++ ink.turnOn ++ c :: cells)
    (colouredCells_inked ink text rest)

-- Ink does not change a text.
theorem map_char_inked (ink : Ink) (text : List Char) :
    (inked ink text).map Cell.char = text := by
  rw [inked, List.map_map]
  exact List.map_id text

/-- The row of a heading as text. -/
theorem rowText_heading (coloured : Bool) (code message : List Char) :
    rowText coloured (inked .fault ("error[".toList ++ code ++ [']'])
        ++ inked .heading ([':', ' '] ++ shownText message)).toArray
      = headingLine coloured code message := by
  cases coloured with
  | false =>
      rw [rowText, if_neg Bool.false_ne_true, List.map_append, map_char_inked, map_char_inked]
      rfl
  | true =>
      have htitle : "error[".toList ++ code ++ [']'] = 'e' :: ("rror[".toList ++ code ++ [']']) :=
        rfl
      have hink : Ink.heading ≠ Ink.fault := by decide
      have hend := colouredCells_change hink ':' (' ' :: shownText message) []
      rw [List.append_nil] at hend
      rw [rowText, if_pos rfl, htitle, colouredCells_change (by decide)]
      change [] ++ Ink.fault.turnOn ++ (_ ++ colouredCells .fault
        (inked .heading (':' :: ' ' :: shownText message))) = _
      rw [hend, headingLine, if_pos rfl, htitle]
      simp only [List.append_assoc, List.nil_append, List.cons_append, colouredCells]

/-- The text of a canvas that has more than one row: the first row, a line end and the rest. -/
theorem exists_text_eq {canvas : Canvas} (h : 2 ≤ canvas.height) (coloured : Bool) :
    ∃ rest, canvas.text coloured = rowText coloured (canvas.row 0) ++ '\n' :: rest := by
  rw [height, ← Array.length_toList] at h
  rw [text, row, Array.getD_eq_getD_getElem?, ← Array.getElem?_toList]
  generalize canvas.rows.toList = rows at h
  cases rows with
  | nil =>
      rw [List.length_nil] at h
      omega
  | cons first rows =>
      cases rows with
      | nil =>
          rw [List.length_singleton] at h
          omega
      | cons second rows =>
          rw [List.map_cons, List.map_cons, List.intercalate_cons_cons]
          exact ⟨_, List.append_assoc _ _ _⟩

end Canvas

/-! ## The first row -/

/-- Only a line feed is shown as a line feed: the other control characters are shown as pictures. -/
theorem shownChar_ne_lineFeed {c : Char} (h : c ≠ '\n') : '\n' ∉ shownChar c := by
  have hpictures : ∀ n < 0x20, '\n' ≠ Char.ofNat (0x2400 + n) := by decide
  rw [shownChar, if_neg h]
  split
  · decide
  · split
    · rename_i hcontrol
      rw [List.mem_singleton]
      exact hpictures c.toNat hcontrol
    · split
      · decide
      · split
        · exact List.not_mem_nil
        · split
          · decide
          · rw [List.mem_singleton]
            exact h.symm

/-- A text on one line is shown on one line. -/
theorem notMem_shownText {text : List Char} (h : '\n' ∉ text) : '\n' ∉ shownText text := by
  intro hmem
  rcases List.mem_flatMap.mp hmem with ⟨c, hc, hshown⟩
  refine shownChar_ne_lineFeed ?_ hshown
  rintro rfl
  exact h hc

-- A text on one line is one row.
theorem textRows_of_notMem {text : List Char} (h : '\n' ∉ text) : textRows text = [text] := by
  induction text with
  | nil => rfl
  | cons c rest ih =>
      rw [List.mem_cons, not_or] at h
      rw [textRows, if_neg (Ne.symm h.1), ih h.2]

/-- The first row of a picture, if the message is one line. -/
theorem row_drawHeading (diagnostic : Diagnostic) (h : '\n' ∉ diagnostic.message) :
    (diagnostic.drawHeading .empty).row 0
      = (inked .fault ("error[".toList ++ diagnostic.code ++ [']'])
        ++ inked .heading ([':', ' '] ++ shownText diagnostic.message)).toArray := by
  simp only [Diagnostic.drawHeading, drawRows, textRows_of_notMem (notMem_shownText h),
    List.foldl_nil, Canvas.row_append]
  refine Array.ext' ?_
  simp only [Array.toList_append, List.append_assoc, inked, List.map_append]
  rfl

/-- All that is drawn behind the heading begins in the second row, so the picture keeps it. There
    is a second row, for the place of the fault is there. -/
theorem row_picture {diagnostic : Diagnostic} (h : '\n' ∉ diagnostic.message) :
    diagnostic.picture.row 0
        = (inked .fault ("error[".toList ++ diagnostic.code ++ [']'])
          ++ inked .heading ([':', ' '] ++ shownText diagnostic.message)).toArray ∧
      2 ≤ diagnostic.picture.height := by
  have hrow := row_drawHeading diagnostic h
  rw [← hrow, Diagnostic.picture]
  have hbelow : 1 ≤ (diagnostic.drawHeading .empty).height := by
    refine Canvas.height_pos ?_
    rw [hrow]
    exact fun hempty => absurd (congrArg Array.toList hempty) (List.cons_ne_nil _ _)
  generalize diagnostic.drawHeading .empty = heading at hbelow
  have horigin := drawnFrom_drawOrigin hbelow diagnostic diagnostic.numberWidth
  have hexcerpt := drawnFrom_drawExcerpt (Nat.le_trans hbelow horigin.height_le)
    diagnostic.numberWidth (excerptOf (shownLines diagnostic.source) diagnostic).2
    (shownLines diagnostic.source) (excerptOf (shownLines diagnostic.source) diagnostic).1
  have hnotes := drawnFrom_drawNotes
    (Nat.le_trans hbelow (horigin.trans hexcerpt).height_le) diagnostic diagnostic.numberWidth
  refine ⟨((horigin.trans hexcerpt).trans hnotes).row_eq 0 Nat.one_pos, ?_⟩
  have htwo : 2 ≤ (diagnostic.drawOrigin diagnostic.numberWidth heading).height := by
    rw [Diagnostic.drawOrigin, Canvas.put, Canvas.height_setRow]
    omega
  exact Nat.le_trans htwo (hexcerpt.trans hnotes).height_le

/-- A diagnostic begins with its heading, and something follows on the next line. -/
theorem exists_render_eq {diagnostic : Diagnostic} (h : '\n' ∉ diagnostic.message)
    (coloured : Bool) :
    ∃ rest, diagnostic.render coloured
      = headingLine coloured diagnostic.code diagnostic.message ++ '\n' :: rest := by
  rcases row_picture h with ⟨hrow, hheight⟩
  rcases Canvas.exists_text_eq hheight coloured with ⟨rest, htext⟩
  refine ⟨rest, ?_⟩
  rw [Diagnostic.render, htext, hrow, Canvas.rowText_heading]

end TagNesting
