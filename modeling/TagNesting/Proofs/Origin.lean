import TagNesting.Proofs.ShownLine
import TagNesting.Report

/-!
# The Origin of an Excerpt

Which place an excerpt is headed by. A callout whose two ends are on one line is drawn as one
mark, and where all callouts are, the excerpt has nothing but the lines with these marks. It
is headed by the mark that is ahead on the first line with a primary one, so if there is one
primary mark only it is that one, whatever other marks there are.

## Theorems

* `place_eq_within`: A callout with both ends on one line is one mark.
* `foremost_eq`: The only primary mark is ahead of all others.
* `excerptOf_of_within`: An excerpt of single marks.
* `origin?_eq`: The place at the head of such an excerpt.
-/

namespace TagNesting

/-- A callout whose ends are on one line is drawn as one mark. -/
theorem place_eq_within {lines : List ShownLine} {size : Nat} {callout : Callout}
    (h : (lineAt lines (callout.span.clampedTo size).1).number
      = (lineAt lines (callout.span.clampedTo size).2).number) :
    ∃ stop, callout.place lines size
      = .within ⟨startLocation lines (callout.span.clampedTo size).1, stop, callout.isPrimary,
        some callout.label, .whole⟩ := by
  have hstop : (startLocation lines (callout.span.clampedTo size).1).line
      = (stopLocation lines (startLocation lines (callout.span.clampedTo size).1)
        (callout.span.clampedTo size).2).line := by
    rw [stopLocation]
    split
    · rfl
    · exact h
  rw [Callout.place, if_pos hstop]
  exact ⟨_, rfl⟩

theorem isAhead_of_isPrimary {mark next : Mark} (hprimary : mark.isPrimary = true)
    (h : next.isAhead mark = true) : next.isPrimary = true := by
  rw [Mark.isAhead, hprimary] at h
  cases hnext : next.isPrimary with
  | true => rfl
  | false =>
      rw [hnext] at h
      exact absurd h (by simp only [Bool.not_true, Bool.and_false, Bool.false_or, Bool.and_eq_true,
        beq_iff_eq, Bool.false_eq_true, false_and, not_false_eq_true])

-- The one primary mark gets ahead of all others, and none gets ahead of it.
theorem foldl_isAhead_eq {marks : List Mark} {best mark : Mark}
    (hprimary : mark.isPrimary = true)
    (honly : ∀ other ∈ marks, other.isPrimary = true → other = mark)
    (hbest : best = mark ∨ best.isPrimary = false ∧ mark ∈ marks) :
    marks.foldl (fun best next => if next.isAhead best then next else best) best = mark := by
  -- Either the primary mark is the best so far, or it is still to come.
  induction marks generalizing best with
  | nil =>
      rcases hbest with rfl | ⟨_, hmem⟩
      · rfl
      · exact absurd hmem List.not_mem_nil
  | cons next rest ih =>
      have hrest : ∀ other ∈ rest, other.isPrimary = true → other = mark :=
        fun other hother => honly other (List.mem_cons_of_mem _ hother)
      rw [List.foldl_cons]
      refine ih hrest ?_
      rcases hbest with rfl | ⟨hbest, hmem⟩
      · -- Only a primary mark could get ahead, and there is no other.
        left
        split
        · rename_i hahead
          exact honly next List.mem_cons_self (isAhead_of_isPrimary hprimary hahead)
        · rfl
      · by_cases hnext : next.isPrimary = true
        · left
          have hahead : next.isAhead best = true := by
            rw [Mark.isAhead, hnext, hbest]
            rfl
          rw [if_pos hahead]
          exact honly next List.mem_cons_self hnext
        · -- The primary mark is still to come.
          right
          rw [Bool.not_eq_true] at hnext
          refine ⟨?_, ?_⟩
          · split
            · exact hnext
            · exact hbest
          · rcases List.mem_cons.mp hmem with rfl | hmem
            · rw [hprimary] at hnext
              exact absurd hnext (by decide)
            · exact hmem

theorem foremost_eq {marks : List Mark} {mark : Mark} (hmem : mark ∈ marks)
    (hprimary : mark.isPrimary = true)
    (honly : ∀ other ∈ marks, other.isPrimary = true → other = mark) :
    foremost marks = some mark := by
  cases marks with
  | nil => exact absurd hmem List.not_mem_nil
  | cons first rest =>
      rw [foremost, foldl_isAhead_eq hprimary
        fun other hother => honly other (List.mem_cons_of_mem _ hother)]
      by_cases hfirst : first.isPrimary = true
      · exact Or.inl (honly first List.mem_cons_self hfirst)
      · refine Or.inr ⟨Bool.eq_false_iff.mpr hfirst, ?_⟩
        rcases List.mem_cons.mp hmem with rfl | hmem
        · exact absurd hprimary hfirst
        · exact hmem

/-- An excerpt all of whose callouts are single marks: the lines that have any, with these. -/
theorem excerptOf_of_within {lines : List ShownLine} {diagnostic : Diagnostic}
    {marks : List Mark}
    (h : diagnostic.callouts.map (Callout.place lines (byteLength diagnostic.source))
      = marks.map Placed.within) :
    (excerptOf lines diagnostic).1
      = (lines.map fun line => MarkedLine.mk line
          (marks.filter (·.start.line == line.number))).filter fun line =>
            !line.marks.isEmpty := by
  have hdepths : (withDepths []).1 = [] := by
    simp only [withDepths, sortLongMarks, List.mergeSort_nil, passes, List.map_nil]
  have hacross : marks.filterMap (fun _ => (none : Option LongMark)) = [] :=
    List.filterMap_eq_nil_iff.mpr fun _ _ => rfl
  simp only [excerptOf, h, List.filterMap_map, Function.comp_def, hacross, hdepths,
    List.flatMap_nil, List.append_nil, List.filterMap_eq_map', List.filter_map, List.map_map,
    List.map_id']

/-- The place at the head of an excerpt all of whose callouts are single marks, only one of them
    primary: the line and the first character of that mark. -/
theorem origin?_eq {diagnostic : Diagnostic} {marks : List Mark} {mark : Mark}
    (h : diagnostic.callouts.map
        (Callout.place (shownLines diagnostic.source) (byteLength diagnostic.source))
      = marks.map Placed.within)
    (hmem : mark ∈ marks) (hprimary : mark.isPrimary = true)
    (honly : ∀ other ∈ marks, other.isPrimary = true → other = mark)
    (hline : ∃ line ∈ shownLines diagnostic.source, line.number = mark.start.line) :
    diagnostic.origin? = some (mark.start.line, mark.start.char + 1) := by
  rcases hline with ⟨line, hline, hnumber⟩
  rw [Diagnostic.origin?, excerptOf_of_within h, originOf]
  generalize hexcerpt : List.filter (fun line : MarkedLine => !line.marks.isEmpty)
    ((shownLines diagnostic.source).map fun line =>
      MarkedLine.mk line (marks.filter (·.start.line == line.number))) = excerpt
  -- The mark is on its line, so some line has a primary mark.
  have hmarked : MarkedLine.mk line (marks.filter (·.start.line == line.number)) ∈ excerpt ∧
      mark ∈ marks.filter (·.start.line == line.number) := by
    have hmark : mark ∈ marks.filter (·.start.line == line.number) :=
      List.mem_filter.mpr ⟨hmem, by rw [hnumber, beq_self_eq_true]⟩
    refine ⟨?_, hmark⟩
    rw [← hexcerpt, List.mem_filter]
    refine ⟨List.mem_map.mpr ⟨line, hline, rfl⟩, ?_⟩
    rw [Bool.not_eq_true', List.isEmpty_eq_false_iff]
    exact List.ne_nil_of_mem hmark
  cases hfind : excerpt.find? fun marked => marked.marks.any Mark.isPrimary with
  | none =>
      exact absurd (List.any_eq_true.mpr ⟨mark, hmarked.2, hprimary⟩)
        (List.find?_eq_none.mp hfind _ hmarked.1)
  | some marked =>
      -- Whichever line it is, its primary mark is the one there is.
      have hany := List.find?_some hfind
      have hexcerptMem := List.mem_of_find?_eq_some hfind
      rw [← hexcerpt, List.mem_filter, List.mem_map] at hexcerptMem
      rcases hexcerptMem with ⟨⟨other, _, rfl⟩, _⟩
      rcases List.any_eq_true.mp hany with ⟨found, hfound, hprimaryFound⟩
      rcases List.mem_filter.mp hfound with ⟨hfoundMem, hfoundLine⟩
      have heq : found = mark := honly found hfoundMem hprimaryFound
      subst heq
      have hforemost : foremost (marks.filter (·.start.line == other.number)) = some found :=
        foremost_eq hfound hprimary fun next hnext => honly next (List.mem_of_mem_filter hnext)
      rw [Option.some_or, Option.bind_some]
      simp only [hforemost, Option.map_some, Option.some.injEq, Prod.mk.injEq, and_true]
      exact (beq_iff_eq.mp hfoundLine).symm

end TagNesting
