import Mathlib.Data.List.Basic
import TagNesting.Diagnostic.Picture

/-!
# Shown Lines

Which line of an excerpt a byte is shown on. Shown lines end at line feeds only, so the
number of a byte's line is one more than the number of line feeds before the byte. A byte
behind the end of the source counts with the last line.

A stretch of text without line feeds therefore lies on one shown line, its end included.

## Theorems

* `lineAt_mem`: The line of a byte is one of those shown.
* `number_lineAt_of_lt`, `number_lineAt_of_le`: The line of a byte, and of one at the end.
* `number_lineAt_of_notMem`: The line of a byte of a stretch without line feeds.
-/

namespace TagNesting

-- The first line holds a byte that is not behind it.
theorem find?_holds_cons (number start n : Nat) (text : List Char) (endSize : Nat)
    (pieces : List (List Char × Nat)) :
    ((placeLines number start ((text, endSize) :: pieces)).find? (·.holds (start + n))).map
        ShownLine.number
      = if n < byteLength text + endSize then some number
        else ((placeLines (number + 1) (start + byteLength text + endSize) pieces).find?
          (·.holds (start + n))).map ShownLine.number := by
  have hholds : ShownLine.holds ⟨number, start, text, endSize⟩ (start + n)
      = decide (n < byteLength text + endSize) := by
    change (decide (start ≤ start + n) &&
      decide (start + n < start + byteLength text + endSize)) = _
    rw [decide_eq_true (Nat.le_add_right _ _), Bool.true_and]
    exact decide_eq_decide.mpr (by omega)
  rw [placeLines, List.find?_cons, hholds]
  by_cases hlt : n < byteLength text + endSize
  · rw [decide_eq_true hlt, if_pos hlt]
    rfl
  · rw [decide_eq_false hlt, if_neg hlt]

-- Only an empty text has no lines.
theorem cutLines_cons_ne_nil (c : Char) (rest : List Char) : cutLines (c :: rest) ≠ [] := by
  rw [cutLines.eq_def]
  split
  · rename_i hnil
    exact absurd hnil (List.cons_ne_nil _ _)
  · exact List.cons_ne_nil _ _
  · exact List.cons_ne_nil _ _
  · split
    · exact List.cons_ne_nil _ _
    · exact List.cons_ne_nil _ _

theorem eq_nil_of_cutLines_eq_nil {cs : List Char} (h : cutLines cs = []) : cs = [] := by
  cases cs with
  | nil => rfl
  | cons c rest => exact absurd h (cutLines_cons_ne_nil c rest)

theorem number_find?_placeLines {cs : List Char} {n : Nat} (number start : Nat)
    (h : n < byteLength cs) :
    ((placeLines number start (cutLines cs)).find? (·.holds (start + n))).map ShownLine.number
      = some (number + (uptoByte n cs).count '\n') := by
  have hfeed : ('\n' : Char).utf8Size = 1 := by decide
  have hreturn : ('\r' : Char).utf8Size = 1 := by decide
  fun_induction cutLines cs generalizing number start n with
  | case1 => exact absurd h (Nat.not_lt_zero _)
  | case2 rest ih =>
      rw [byteLength_cons, hfeed] at h
      rw [find?_holds_cons, byteLength_nil, uptoByte, hfeed]
      by_cases hn : n < 0 + 1
      · rw [if_pos hn, if_neg (by omega)]
        rfl
      · -- The byte is behind the line feed, and the next line has the next number.
        rw [if_neg hn, if_pos (by omega), List.count_cons_self,
          show start + n = start + 0 + 1 + (n - 1) by omega, ih _ _ (by omega)]
        congr 1
        omega
  | case3 rest ih =>
      rw [byteLength_cons, byteLength_cons, hreturn, hfeed] at h
      rw [find?_holds_cons, byteLength_nil, uptoByte, uptoByte, hreturn, hfeed]
      by_cases hn : n < 0 + 2
      · rw [if_pos hn]
        -- The return is before the byte or not, but the line feed is not.
        by_cases hone : 1 ≤ n
        · rw [if_pos hone, if_neg (by omega)]
          rfl
        · rw [if_neg hone]
          rfl
      · rw [if_neg hn, if_pos (by omega), if_pos (by omega),
          List.count_cons_of_ne (by decide), List.count_cons_self,
          show start + n = start + 0 + 2 + (n - 1 - 1) by omega, ih _ _ (by omega)]
        congr 1
        omega
  | case4 c rest _ _ hnil _ =>
      have hrest : rest = [] := eq_nil_of_cutLines_eq_nil hnil
      rw [hrest] at h ⊢
      rw [byteLength_cons, byteLength_nil] at h
      rw [find?_holds_cons, byteLength_cons, byteLength_nil, if_pos (by omega), uptoByte,
        if_neg (by omega)]
      rfl
  | case5 c rest hfeed _ text endSize more hcons ih =>
      rw [byteLength_cons] at h
      rw [find?_holds_cons, byteLength_cons, uptoByte]
      by_cases hc : c.utf8Size ≤ n
      · -- The character goes to the front of the first line of the rest and changes no number.
        have hrest := @ih (n - c.utf8Size) number (start + c.utf8Size) (by omega)
        rw [hcons, find?_holds_cons] at hrest
        rw [if_pos hc, List.count_cons_of_ne hfeed, ← hrest]
        rw [show start + c.utf8Size + (n - c.utf8Size) = start + n by omega,
          show start + (c.utf8Size + byteLength text) = start + c.utf8Size + byteLength text by omega]
        by_cases hn : n < c.utf8Size + byteLength text + endSize
        · rw [if_pos hn, if_pos (by omega)]
        · rw [if_neg hn, if_neg (by omega)]
      · rw [if_neg hc, if_pos (by omega)]
        rfl

/-- The size of lines and their ends. -/
def linesSize : List (List Char × Nat) → Nat
  | [] => 0
  | (text, endSize) :: rest => byteLength text + endSize + linesSize rest

/-- Nothing of a text is lost: its lines and their ends are as long as the text. -/
theorem linesSize_cutLines (cs : List Char) : linesSize (cutLines cs) = byteLength cs := by
  have hfeed : ('\n' : Char).utf8Size = 1 := by decide
  have hreturn : ('\r' : Char).utf8Size = 1 := by decide
  fun_induction cutLines cs with
  | case1 => rfl
  | case2 rest ih =>
      rw [linesSize, ih, byteLength_cons, hfeed, byteLength_nil]
  | case3 rest ih =>
      rw [linesSize, ih, byteLength_cons, byteLength_cons, hfeed, hreturn, byteLength_nil]
      omega
  | case4 c rest _ _ hnil _ =>
      rw [eq_nil_of_cutLines_eq_nil hnil]
      rfl
  | case5 c rest _ _ text endSize more hcons ih =>
      rw [hcons, linesSize] at ih
      rw [linesSize, byteLength_cons, byteLength_cons, ← ih]
      omega

/-- A byte behind all lines is in none of them. -/
theorem find?_placeLines_eq_none {pieces : List (List Char × Nat)} {n : Nat}
    (number start : Nat)
    (h : linesSize pieces ≤ n) :
    ((placeLines number start pieces).find? (·.holds (start + n))).map ShownLine.number
      = none := by
  induction pieces generalizing number start n with
  | nil => rfl
  | cons piece pieces ih =>
      rcases piece with ⟨text, endSize⟩
      rw [linesSize] at h
      have hrest : ((placeLines (number + 1) (start + byteLength text + endSize) pieces).find?
          (·.holds (start + byteLength text + endSize + (n - (byteLength text + endSize))))).map
          ShownLine.number = none := ih _ _ (by omega)
      rw [find?_holds_cons, if_neg (by omega), ← hrest,
        show start + byteLength text + endSize + (n - (byteLength text + endSize)) = start + n
          by omega]

/-- The last of some lines has the number of the first and one more for each line behind it. -/
theorem number_getLast?_placeLines (number start : Nat) (piece : List Char × Nat)
    (pieces : List (List Char × Nat)) :
    (placeLines number start (piece :: pieces)).getLast?.map ShownLine.number
      = some (number + pieces.length) := by
  induction pieces generalizing number start piece with
  | nil => rfl
  | cons next pieces ih =>
      have hrest := ih (number + 1) (start + byteLength piece.1 + piece.2) next
      rw [placeLines] at hrest ⊢
      rw [placeLines, List.getLast?_cons_cons, hrest, List.length_cons]
      congr 1
      omega

-- A line feed at the very end of a text begins no line.
theorem length_cutLines_cons (c : Char) (rest : List Char) :
    (cutLines (c :: rest)).length = 1 + (c :: rest).dropLast.count '\n' := by
  generalize hcs : c :: rest = cs
  have hne : cs ≠ [] := hcs ▸ List.cons_ne_nil c rest
  clear hcs
  fun_induction cutLines cs with
  | case1 => exact absurd rfl hne
  | case2 rest ih =>
      cases rest with
      | nil => rfl
      | cons d rest =>
          rw [List.length_cons, ih (List.cons_ne_nil _ _), List.dropLast_cons_cons,
            List.count_cons_self]
          omega
  | case3 rest ih =>
      cases rest with
      | nil => rfl
      | cons d rest =>
          rw [List.length_cons, ih (List.cons_ne_nil _ _), List.dropLast_cons_cons,
            List.dropLast_cons_cons, List.count_cons_of_ne (by decide), List.count_cons_self]
          omega
  | case4 c rest _ _ hnil _ =>
      -- Nothing follows, so the one character is the one line.
      rw [eq_nil_of_cutLines_eq_nil hnil]
      rfl
  | case5 c rest hfeed _ text endSize more hcons ih =>
      cases rest with
      | nil => exact absurd hcons.symm (List.cons_ne_nil _ _)
      | cons d rest =>
          rw [hcons] at ih
          rw [List.dropLast_cons_cons, List.count_cons_of_ne hfeed, ← ih (List.cons_ne_nil _ _)]
          rfl

theorem shownLines_of_ne_nil {source : List Char} (h : source ≠ []) :
    shownLines source = placeLines 1 0 (cutLines source) := by
  cases source with
  | nil => exact absurd rfl h
  | cons c rest => rfl

theorem shownLines_ne_nil (source : List Char) : shownLines source ≠ [] := by
  cases source with
  | nil => exact List.cons_ne_nil _ _
  | cons c rest =>
      rw [shownLines_of_ne_nil (List.cons_ne_nil c rest)]
      cases hcut : cutLines (c :: rest) with
      | nil => exact absurd hcut (cutLines_cons_ne_nil c rest)
      | cons piece pieces => exact List.cons_ne_nil _ _

theorem lineAt_mem {lines : List ShownLine} (hne : lines ≠ []) (byte : Nat) :
    lineAt lines byte ∈ lines := by
  rw [lineAt]
  cases hfind : lines.find? (·.holds byte) with
  | some line => exact List.mem_of_find?_eq_some hfind
  | none =>
      rw [Option.getD_none, List.getLastD_eq_getLast?, List.getLast?_eq_some_getLast hne,
        Option.getD_some]
      exact List.getLast_mem hne

/-- The line of a byte: one more than the line feeds before it. -/
theorem number_lineAt_of_lt {source : List Char} {byte : Nat} (h : byte < byteLength source) :
    (lineAt (shownLines source) byte).number = 1 + (uptoByte byte source).count '\n' := by
  have hne : source ≠ [] := by
    rintro rfl
    exact absurd h (Nat.not_lt_zero _)
  have hfind := number_find?_placeLines 1 0 h
  rw [Nat.zero_add, ← shownLines_of_ne_nil hne, Option.map_eq_some_iff] at hfind
  rcases hfind with ⟨line, hline, hnumber⟩
  rw [lineAt, hline, Option.getD_some, hnumber]

/-- A byte behind the end counts with the last line. -/
theorem number_lineAt_of_le {source : List Char} {byte : Nat} (hne : source ≠ [])
    (h : byteLength source ≤ byte) :
    (lineAt (shownLines source) byte).number = 1 + source.dropLast.count '\n' := by
  rw [← linesSize_cutLines] at h
  have hnone := find?_placeLines_eq_none 1 0 h
  rw [Nat.zero_add, ← shownLines_of_ne_nil hne, Option.map_eq_none_iff] at hnone
  rw [lineAt, hnone, Option.getD_none, List.getLastD_eq_getLast?, shownLines_of_ne_nil hne]
  rcases List.exists_cons_of_ne_nil hne with ⟨c, rest, rfl⟩
  have hlength := length_cutLines_cons c rest
  cases hcut : cutLines (c :: rest) with
  | nil => exact absurd hcut (cutLines_cons_ne_nil c rest)
  | cons piece pieces =>
      rw [hcut, List.length_cons] at hlength
      rcases Option.map_eq_some_iff.mp (number_getLast?_placeLines 1 0 piece pieces)
        with ⟨line, hline, hnumber⟩
      rw [hline, Option.getD_some, hnumber]
      omega

/-- A stretch of text without line feeds is on one line, the byte behind it included. -/
theorem number_lineAt_of_notMem {before stretch after : List Char} {byte : Nat}
    (hne : stretch ≠ []) (hfeed : '\n' ∉ stretch) (hfirst : byteLength before ≤ byte)
    (hlast : byte ≤ byteLength (before ++ stretch)) :
    (lineAt (shownLines (before ++ stretch ++ after)) byte).number
      = 1 + before.count '\n' := by
  rw [byteLength_append] at hlast
  by_cases hlt : byte < byteLength (before ++ stretch ++ after)
  · -- The line feeds before the byte are those before the stretch, for it has none.
    have hnone : (uptoByte (byte - byteLength before) stretch).count '\n' = 0 :=
      List.count_eq_zero.mpr fun hmem => hfeed ((uptoByte_isPrefix _ _).subset hmem)
    rw [number_lineAt_of_lt hlt, List.append_assoc, uptoByte_append_of_le hfirst,
      uptoByte_append_of_ge (by omega), List.count_append, hnone, Nat.add_zero]
  · -- Nothing comes behind the stretch, and its last character is no line feed either.
    have hafter : after = [] := by
      cases after with
      | nil => rfl
      | cons c rest =>
          have hsize := c.utf8Size_pos
          rw [byteLength_append, byteLength_append, byteLength_cons] at hlt
          omega
    have hnone : stretch.dropLast.count '\n' = 0 :=
      List.count_eq_zero.mpr fun hmem => hfeed ((List.dropLast_sublist _).subset hmem)
    rw [number_lineAt_of_le (List.append_ne_nil_of_left_ne_nil
        (List.append_ne_nil_of_right_ne_nil _ hne) _) (Nat.le_of_not_lt hlt), hafter,
      List.append_nil, List.dropLast_append_of_ne_nil hne, List.count_append, hnone, Nat.add_zero]

end TagNesting
