import TagNesting.Diagnostic.Picture

/-!
# Drawing Further Down

A picture is drawn from the top. Each of its parts begins at or below the last row there is, or
below a row that is named, and draws on nothing above it. So what has been drawn stays as it
is: a heading is not overwritten by the excerpt below it, however many callouts there are and
wherever their labels hang.

## Main definitions

* `Canvas.DrawnFrom`: A canvas that has been drawn on from a row on.

## Theorems

* `drawnFrom_setRow`, `drawnFrom_write`: Cells put into a row change no row above it.
* `DrawnFrom.foldl`: Nor do many drawings one after the other.
* `drawnFrom_drawMarks`, `drawnFrom_drawExcerpt`: An excerpt is drawn below what there is.
* `drawnFrom_drawOrigin`, `drawnFrom_drawNotes`: So is what stands above and below it.
-/

namespace TagNesting

namespace Canvas

/-- A canvas that has been drawn on from a row on: the rows above are as they were, and there are
    no fewer than before. -/
structure DrawnFrom (top : Nat) (canvas drawn : Canvas) : Prop where
  /-- The rows above are as they were. -/
  row_eq : ∀ r < top, drawn.row r = canvas.row r
  /-- No row has been taken away. -/
  height_le : canvas.height ≤ drawn.height

/-- Nothing drawn changes nothing. -/
theorem DrawnFrom.refl (top : Nat) (canvas : Canvas) : DrawnFrom top canvas canvas :=
  ⟨fun _ _ => rfl, Nat.le_refl _⟩

/-- One drawing after the other, both from the same row on. -/
theorem DrawnFrom.trans {top : Nat} {canvas drawn further : Canvas}
    (h : DrawnFrom top canvas drawn) (h' : DrawnFrom top drawn further) :
    DrawnFrom top canvas further :=
  ⟨fun r hr => (h'.row_eq r hr).trans (h.row_eq r hr), Nat.le_trans h.height_le h'.height_le⟩

-- Much of a picture is drawn only if there is room or need for it.
theorem DrawnFrom.ite {top : Nat} {canvas drawn other : Canvas} {p : Prop} [Decidable p]
    (h : DrawnFrom top canvas drawn) (h' : DrawnFrom top canvas other) :
    DrawnFrom top canvas (if p then drawn else other) := by
  split
  · exact h
  · exact h'

/-- A canvas grows down to the row that is set, if it does not reach there. -/
theorem height_setRow (canvas : Canvas) (r : Nat) (cells : Array Cell) :
    (canvas.setRow r cells).height = max canvas.height (r + 1) := by
  simp only [height, setRow, padRows, Array.size_setIfInBounds, Array.size_append,
    Array.size_replicate]
  omega

theorem row_setRow (canvas : Canvas) (r : Nat) (cells : Array Cell) :
    (canvas.setRow r cells).row r = cells := by
  have hlt : r < (canvas.padRows (r + 1)).rows.size := by
    simp only [padRows, Array.size_append, Array.size_replicate]
    omega
  rw [row, setRow, Array.getD_eq_getD_getElem?, Array.getElem?_setIfInBounds_self_of_lt hlt,
    Option.getD_some]

theorem row_setRow_of_ne {canvas : Canvas} {r other : Nat} (h : other ≠ r)
    (cells : Array Cell) : (canvas.setRow r cells).row other = canvas.row other := by
  simp only [row, setRow, padRows, Array.getD_eq_getD_getElem?]
  rw [Array.getElem?_setIfInBounds_ne h.symm, Array.getElem?_append]
  -- A row that has not been reached yet is empty, and so is one that has been added.
  split
  · rfl
  · rename_i hge
    have hnone : canvas.rows[other]? = none := Array.getElem?_eq_none (by omega)
    rw [hnone, Array.getElem?_replicate]
    split
    · rfl
    · rfl

section Primitives

variable {top r : Nat}

/-- A row that is set changes no row above it. -/
theorem drawnFrom_setRow (h : top ≤ r) (canvas : Canvas) (cells : Array Cell) :
    DrawnFrom top canvas (canvas.setRow r cells) where
  row_eq other hother := row_setRow_of_ne (by omega) cells
  height_le := by
    rw [height_setRow]
    exact Nat.le_max_left _ _

-- All other drawing comes down to setting rows, so none of it asks how a row is laid out.
theorem drawnFrom_put (h : top ≤ r) (canvas : Canvas) (column : Nat) (c : Char) (ink : Ink) :
    DrawnFrom top canvas (canvas.put r column c ink) :=
  drawnFrom_setRow h canvas _

/-- A text changes its own row only, however long it is. -/
theorem drawnFrom_write (h : top ≤ r) (canvas : Canvas) (column : Nat) (text : List Char)
    (ink : Ink) : DrawnFrom top canvas (canvas.write r column text ink) := by
  rw [write]
  induction text generalizing canvas column with
  | nil => exact DrawnFrom.refl top canvas
  | cons c rest ih => exact (drawnFrom_put h canvas column c ink).trans (ih _ _)

theorem drawnFrom_append (h : top ≤ r) (canvas : Canvas) (text : List Char) (ink : Ink) :
    DrawnFrom top canvas (canvas.append r text ink) :=
  drawnFrom_write h canvas _ text ink

theorem drawnFrom_indent (h : top ≤ r) (canvas : Canvas) (text : List Char) (ink : Ink) :
    DrawnFrom top canvas (canvas.indent r text ink) :=
  (drawnFrom_setRow h canvas _).trans (drawnFrom_write h _ 0 text ink)

/-- Many drawings one after the other, each of them on a canvas that reaches down to the row. -/
theorem DrawnFrom.foldl {α : Type} {f : Canvas → α → Canvas}
    (hf : ∀ canvas x, top ≤ canvas.height → DrawnFrom top canvas (f canvas x)) {canvas : Canvas}
    (h : top ≤ canvas.height) (xs : List α) : DrawnFrom top canvas (xs.foldl f canvas) := by
  induction xs generalizing canvas with
  | nil => exact DrawnFrom.refl top canvas
  | cons x xs ih =>
      have hfirst := hf canvas x h
      exact hfirst.trans (ih (Nat.le_trans h hfirst.height_le))

/-- Neither does a line to the right change a row above. -/
theorem drawnFrom_rule (h : top ≤ r) {canvas : Canvas} (htop : top ≤ canvas.height)
    (first last : Nat) (c : Char) (ink : Ink) :
    DrawnFrom top canvas (canvas.rule r first last c ink) :=
  DrawnFrom.foldl (fun drawn _ _ => drawnFrom_put h drawn _ c ink) htop _

/-- Nor does a line downwards. -/
theorem drawnFrom_column (h : top ≤ r) {canvas : Canvas} (htop : top ≤ canvas.height)
    (bottom place : Nat) (c : Char) (ink : Ink) :
    DrawnFrom top canvas (canvas.column r bottom place c ink) :=
  DrawnFrom.foldl (fun drawn _ _ => drawnFrom_put (by omega) drawn place c ink) htop _

theorem drawnFrom_abridge (h : top ≤ r) (canvas : Canvas) (first last : Nat)
    (text : List Char) (ink : Ink) :
    DrawnFrom top canvas (canvas.abridge r first last text ink) := by
  rw [abridge]
  split
  · exact DrawnFrom.refl top canvas
  · exact (drawnFrom_setRow h canvas _).trans (drawnFrom_write h _ first text ink)

end Primitives

end Canvas

/-! ## Excerpts -/

section Excerpt

open Canvas

variable {top row : Nat} {canvas : Canvas} (frame : Frame)

theorem drawnFrom_drawCode (h : top ≤ row) (number : Nat) (code : List Char)
    (canvas : Canvas) : DrawnFrom top canvas (drawCode frame number row code canvas).1 := by
  simp only [drawCode, drawBar]
  -- The ellipses at the two ends are drawn or not, and all else always is.
  refine DrawnFrom.trans ?_ (drawnFrom_put h _ _ _ _)
  refine DrawnFrom.trans ?_ (drawnFrom_write h _ _ _ _)
  refine DrawnFrom.trans ?_ (DrawnFrom.ite (drawnFrom_write h _ _ _ _) (DrawnFrom.refl _ _))
  refine DrawnFrom.trans ?_ (drawnFrom_write h _ _ _ _)
  exact DrawnFrom.ite (drawnFrom_write h _ _ _ _) (DrawnFrom.refl _ _)

theorem drawnFrom_drawSide (h : top ≤ row) (htop : top ≤ canvas.height) (bottom depth : Nat)
    (ink : Ink) : DrawnFrom top canvas (drawSide frame row bottom depth ink canvas) :=
  drawnFrom_column h htop bottom _ '|' ink

/-- The line that runs from the left to a mark is drawn below the row of the code. -/
theorem drawnFrom_drawApproach (h : top ≤ row) (htop : top ≤ canvas.height) (left : Nat)
    (p : PlacedMark) : DrawnFrom top canvas (drawApproach frame row left canvas p) := by
  rw [drawApproach]
  split
  · exact drawnFrom_rule (by omega) htop _ _ _ _
  · exact drawnFrom_rule (by omega) htop _ _ _ _
  · exact DrawnFrom.refl top canvas

/-- What runs down from a mark, and the lines at the left, begin at the row of the code. -/
theorem drawnFrom_drawDescent (h : top ≤ row) (htop : top ≤ canvas.height) (left height : Nat)
    (p : PlacedMark) : DrawnFrom top canvas (drawDescent frame row left height canvas p) := by
  simp only [drawDescent]
  have hdescent : DrawnFrom top canvas
      (if 1 < p.level + 1 && (p.mark.hasLabel || p.mark.takesSpace) then
        canvas.column (row + 1) (row + (p.level + 1) + 1)
          (codeColumn frame left p.mark.start.column) '|' (markInk p.mark.isPrimary)
      else canvas) :=
    DrawnFrom.ite (drawnFrom_column (by omega) htop _ _ _ _) (DrawnFrom.refl _ _)
  have hbelow := Nat.le_trans htop hdescent.height_le
  refine hdescent.trans ?_
  -- The side is drawn over whatever the descent has left.
  generalize (if 1 < p.level + 1 && (p.mark.hasLabel || p.mark.takesSpace) then
      canvas.column (row + 1) (row + (p.level + 1) + 1)
        (codeColumn frame left p.mark.start.column) '|' (markInk p.mark.isPrimary)
    else canvas) = descended at hbelow
  split
  · rename_i depth _
    have hlevel : top ≤ row + (p.level + 1) := by omega
    have hput := drawnFrom_put hlevel descended (frame.inside + depth - 1) ' '
      (markInk p.mark.isPrimary)
    exact hput.trans (drawnFrom_drawSide frame (by omega)
      (Nat.le_trans hbelow hput.height_le) _ _ _)
  · exact drawnFrom_drawSide frame h hbelow _ _ _
  · exact DrawnFrom.refl _ _

/-- A label stands below the row of the code, on whatever level. -/
theorem drawnFrom_drawLabel (h : top ≤ row) (left : Nat) (canvas : Canvas) (p : PlacedMark) :
    DrawnFrom top canvas (drawLabel frame row left canvas p) := by
  simp only [drawLabel]
  split
  · exact drawnFrom_write (by omega) _ _ _ _
  · exact DrawnFrom.refl top canvas

/-- A mark is drawn in the row below the code. -/
theorem drawnFrom_drawMark (h : top ≤ row) (htop : top ≤ canvas.height) (left : Nat)
    (p : PlacedMark) : DrawnFrom top canvas (drawMark frame row left canvas p) := by
  simp only [drawMark]
  have hnext : top ≤ row + 1 := by omega
  have hput := drawnFrom_put hnext
  refine DrawnFrom.trans ?_ (DrawnFrom.ite (hput _ _ _ _) (DrawnFrom.refl _ _))
  exact DrawnFrom.foldl (fun drawn _ _ => hput drawn _ _ _) htop _

/-- A long mark is shortened in the row of the code and in its own. -/
theorem drawnFrom_shortenMark (h : top ≤ row) (overlapping : List Nat) (canvas : Canvas)
    (indexed : PlacedMark × Nat) :
    DrawnFrom top canvas (shortenMark frame row overlapping canvas indexed) := by
  simp only [shortenMark]
  refine DrawnFrom.ite (DrawnFrom.refl _ _) (DrawnFrom.ite ?_ (DrawnFrom.refl _ _))
  exact (drawnFrom_abridge h _ _ _ _ _).trans (drawnFrom_abridge (by omega) _ _ _ _ _)

/-- The marks of a line are drawn in its row and below it. -/
theorem drawnFrom_drawMarks (h : top ≤ row) (htop : top ≤ canvas.height) (left : Nat)
    (marks : List Mark) :
    DrawnFrom top canvas (drawMarks frame row left marks canvas).1 := by
  simp only [drawMarks]
  -- The parts of all marks are drawn one kind after the other.
  have hbar : ∀ (drawn : Canvas) (i : Nat), top ≤ drawn.height →
      DrawnFrom top drawn (drawBar frame (row + i + 1) drawn) :=
    fun drawn _ _ => drawnFrom_put (by omega) drawn _ _ _
  have hbars := DrawnFrom.foldl hbar htop (List.range ((layoutOf marks).height + 1))
  have happroaches := DrawnFrom.foldl
    (fun drawn p hdrawn => drawnFrom_drawApproach frame h hdrawn left p)
    (Nat.le_trans htop hbars.height_le) (layoutOf marks).placed
  have hdescents := DrawnFrom.foldl
    (fun drawn p hdrawn => drawnFrom_drawDescent frame h hdrawn left (layoutOf marks).height p)
    (Nat.le_trans htop (hbars.trans happroaches).height_le) (layoutOf marks).placed
  have hlabels := DrawnFrom.foldl
    (fun drawn p _ => drawnFrom_drawLabel frame h left drawn p)
    (Nat.le_trans htop ((hbars.trans happroaches).trans hdescents).height_le)
    (layoutOf marks).placed
  have hmarks := DrawnFrom.foldl
    (fun drawn p hdrawn => drawnFrom_drawMark frame h hdrawn left p)
    (Nat.le_trans htop (((hbars.trans happroaches).trans hdescents).trans hlabels).height_le)
    (widestFirst (layoutOf marks).placed)
  have hdrawn := (((hbars.trans happroaches).trans hdescents).trans hlabels).trans hmarks
  exact hdrawn.trans (DrawnFrom.foldl
    (fun drawn indexed _ =>
      drawnFrom_shortenMark frame h (layoutOf marks).overlapping drawn indexed)
    (Nat.le_trans htop hdrawn.height_le) _)

/-- A line is drawn below what is on the canvas. -/
theorem drawnFrom_drawLine (htop : top ≤ canvas.height) (marked : MarkedLine) :
    DrawnFrom top canvas (drawLine frame marked canvas).1 := by
  simp only [drawLine]
  have hcode := drawnFrom_drawCode frame htop marked.line.number (shownText marked.line.text)
    canvas
  have hbelow := Nat.le_trans htop hcode.height_le
  split
  · exact hcode.trans (DrawnFrom.foldl
      (fun drawn side _ => drawnFrom_put htop drawn _ _ _) hbelow _)
  · exact hcode.trans (drawnFrom_drawMarks frame htop hbelow _ _)

/-- What stands between two lines that do not follow each other is drawn below the upper one. -/
theorem drawnFrom_drawGap (htop : top ≤ canvas.height) (lines : List ShownLine)
    (upper lower : MarkedLine) (running : List (Nat × Ink)) :
    DrawnFrom top canvas (drawGap frame lines upper lower running canvas) := by
  simp only [drawGap]
  have hsides : ∀ {drawn : Canvas}, DrawnFrom top canvas drawn → ∀ sides : List (Nat × Ink),
      DrawnFrom top canvas (sides.foldl (fun drawn side =>
        drawSide frame canvas.height (canvas.height + 1) side.1 side.2 drawn) drawn) :=
    fun hdrawn sides => hdrawn.trans (DrawnFrom.foldl
      (fun further side hfurther => drawnFrom_drawSide frame htop hfurther _ _ _)
      (Nat.le_trans htop hdrawn.height_le) sides)
  refine DrawnFrom.ite (hsides (drawnFrom_write htop _ _ _ _) _) (DrawnFrom.ite ?_ ?_)
  · exact hsides (drawnFrom_drawCode frame htop _ _ canvas) _
  · exact DrawnFrom.refl _ _

/-- So an excerpt is drawn line by line, each of them below the last. -/
theorem drawnFrom_drawLines (htop : top ≤ canvas.height) (lines : List ShownLine)
    (running : List (Nat × Ink)) (excerpt : List MarkedLine) :
    DrawnFrom top canvas (drawLines frame lines running excerpt canvas) := by
  induction excerpt generalizing canvas running with
  | nil => exact DrawnFrom.refl top canvas
  | cons marked rest ih =>
      simp only [drawLines]
      have hline := drawnFrom_drawLine frame htop marked
      have hsides := hline.trans (DrawnFrom.foldl
        (fun drawn side hdrawn => drawnFrom_drawSide frame htop hdrawn drawn.height side.1 side.2)
        (Nat.le_trans htop hline.height_le)
        (running.filter fun side =>
          !((drawLine frame marked canvas).2.map (·.1)).contains side.1))
      cases rest with
      | nil => exact hsides.trans (ih (Nat.le_trans htop hsides.height_le) _)
      | cons next rest =>
          have hgap := fun kept => hsides.trans (drawnFrom_drawGap frame
            (Nat.le_trans htop hsides.height_le) lines marked next kept)
          exact (hgap _).trans (ih (Nat.le_trans htop (hgap _).height_le) _)

/-- An excerpt is drawn below what is on the canvas. -/
theorem drawnFrom_drawExcerpt (htop : top ≤ canvas.height) (numberWidth depth : Nat)
    (lines : List ShownLine) (excerpt : List MarkedLine) :
    DrawnFrom top canvas (drawExcerpt numberWidth depth lines excerpt canvas) :=
  drawnFrom_drawLines _ htop lines [] excerpt

end Excerpt

/-! ## Above and below an excerpt -/

section Diagnostic

open Canvas

variable {top : Nat} {canvas : Canvas}

theorem drawnFrom_drawRows {row : Nat} (h : top ≤ row) (indentation : Nat) (text : List Char)
    (ink : Ink) (canvas : Canvas) :
    DrawnFrom top canvas (drawRows row indentation text ink canvas) := by
  rw [drawRows]
  split
  · exact DrawnFrom.refl top canvas
  · rename_i head more hrows
    clear hrows
    simp only
    refine (drawnFrom_append h canvas head ink).trans ?_
    -- Each further row of the text is one row further down.
    generalize canvas.append row head ink = start
    have hrow : top ≤ row + 1 := Nat.le_succ_of_le h
    generalize row + 1 = next at hrow
    induction more generalizing start next with
    | nil => exact DrawnFrom.refl top start
    | cons line more ih =>
        refine DrawnFrom.trans ?_ (ih _ _ (Nat.le_succ_of_le hrow))
        exact (drawnFrom_append hrow start _ _).trans (drawnFrom_append hrow _ _ _)

/-- The place of the fault is drawn below the heading. -/
theorem drawnFrom_drawOrigin (htop : top ≤ canvas.height) (diagnostic : Diagnostic)
    (width : Nat) : DrawnFrom top canvas (diagnostic.drawOrigin width canvas) := by
  simp only [Diagnostic.drawOrigin]
  refine DrawnFrom.trans ?_ (drawnFrom_put (by omega) _ _ _ _)
  refine DrawnFrom.trans ?_ (drawnFrom_indent htop _ _ _)
  exact (drawnFrom_indent htop _ _ _).trans (drawnFrom_append htop _ _ _)

/-- The notes are drawn below everything else. -/
theorem drawnFrom_drawNotes (htop : top ≤ canvas.height) (diagnostic : Diagnostic)
    (width : Nat) : DrawnFrom top canvas (diagnostic.drawNotes width canvas) := by
  rw [Diagnostic.drawNotes]
  have hput := drawnFrom_put htop canvas (width + 1) '|' .frame
  refine DrawnFrom.ite (DrawnFrom.refl _ _) (hput.trans (DrawnFrom.foldl ?_
    (Nat.le_trans htop hput.height_le) _))
  intro drawn note hdrawn
  simp only [Diagnostic.drawNote]
  refine DrawnFrom.trans ?_ (drawnFrom_drawRows hdrawn _ _ _ _)
  refine DrawnFrom.trans ?_ (drawnFrom_append hdrawn _ _ _)
  refine DrawnFrom.trans ?_ (drawnFrom_append hdrawn _ _ _)
  exact (drawnFrom_write hdrawn _ _ _ _).trans (drawnFrom_write hdrawn _ _ _ _)

end Diagnostic

end TagNesting
