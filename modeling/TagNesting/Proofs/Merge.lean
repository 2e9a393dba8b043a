import Mathlib.Data.List.TakeWhile
import TagNesting.Settings.Merge

/-!
# Looking Up What Was Merged

What a table has for a name when a source has been laid over it. Every name of a source is a
path or stands for itself, and wherever it leads to, it begins at one name of the table. That
is its root, and what else the table has stays as it was. So each name of the table can be
followed on its own: what comes of it are the fields of the source that have it as their
root, laid over what was there one by one.

A plain identifier is its own root. It leads nowhere further, so its datum is laid over what
was there as it is.

## Main definitions

* `rootName`: The name that a name of a source begins at.
* `Datum.setUnder`: A datum laid over what was there for the root of its name.
* `fieldsAt`: The fields of a source whose names begin at a name.
* `Datum.IsWhole`: A datum that is taken whole.
* `IsPlainName`: A name that is a path of one step.

## Theorems

* `get?_put`: What a table has when a datum has been put into it.
* `get?_mergeField`: What a table has under one field of a source.
* `get?_mergeFields`: What a table has under a source.
* `get?_mergeFields_of_plain`: What it has under a plain name that the source sets.
* `get?_mergeFields_of_isWhole`: What it has if the datum is taken whole.
* `get?_mergeFields_of_silent`: What it has if the source says nothing of the name.
-/

namespace TagNesting

/-- The name that a name of a source begins at. -/
def rootName (name : List Char) : List Char :=
  match readPath? name with
  | some (.name first :: _) => first
  | _ => name

/-- A datum laid over what was there for the root of its name. -/
def Datum.setUnder (datum : Datum) (name : List Char) (below : Option Datum) : Datum :=
  match readPath? name with
  | some (.name _ :: steps) => datum.setAlong steps below
  | _ => datum.laidOver below

/-- The fields of a source whose names begin at a name. -/
def fieldsAt {α : Type} (name : List Char) (fields : List (List Char × α)) :
    List (List Char × α) := fields.filter fun field => rootName field.1 = name

/-- A datum that is no table, and so replaces what was there as a whole. -/
def Datum.IsWhole : Datum → Prop
  | .scalar .. => True
  | .list .. => True
  | .table .. => False

/-- A plain identifier, which is a path of one step. -/
def IsPlainName (name : List Char) : Prop := name ≠ [] ∧ name.all isPathChar = true

instance (name : List Char) : Decidable (IsPlainName name) :=
  inferInstanceAs (Decidable (_ ∧ _))

theorem get?_cons (name other : List Char) (datum : Datum) (fields : Fields) :
    Fields.get? ((name, datum) :: fields) other
      = if name = other then some datum else fields.get? other := by
  rw [Fields.get?, List.find?_cons]
  by_cases hname : name = other
  · rw [if_pos hname, beq_iff_eq.mpr hname]
    rfl
  · rw [if_neg hname, beq_eq_false_iff_ne.mpr hname]
    rfl

/-- A datum that is put into a table is what the table has for its name. Other names keep what
    they had. -/
theorem get?_put (fields : Fields) (name other : List Char) (datum : Datum) :
    (fields.put name datum).get? other
      = if name = other then some datum else fields.get? other := by
  induction fields with
  | nil => exact get?_cons name other datum []
  | cons field fields ih =>
      rcases field with ⟨present, old⟩
      rw [Fields.put]
      by_cases hpresent : present = name
      · rw [if_pos hpresent, get?_cons, get?_cons, hpresent]
        by_cases hname : name = other
        · rw [if_pos hname, if_pos hname]
        · rw [if_neg hname, if_neg hname, if_neg hname]
      · rw [if_neg hpresent, get?_cons, get?_cons, ih]
        by_cases hother : present = other
        · rw [if_pos hother, if_pos hother, if_neg fun hname => hpresent (hother.trans hname.symm)]
        · rw [if_neg hother, if_neg hother]

theorem mergeField_eq_put (fields : Fields) (name : List Char) (datum : Datum) :
    mergeField fields name datum
      = fields.put (rootName name) (datum.setUnder name (fields.get? (rootName name))) := by
  rw [mergeField, rootName, Datum.setUnder]
  rcases readPath? name with _ | (_ | ⟨_ | _, _⟩)
  all_goals rfl

/-- A field of a source changes what a table has for the root of its name, and nothing else. -/
theorem get?_mergeField (fields : Fields) (name other : List Char) (datum : Datum) :
    (mergeField fields name datum).get? other
      = if rootName name = other then some (datum.setUnder name (fields.get? other))
        else fields.get? other := by
  rw [mergeField_eq_put, get?_put]
  by_cases hroot : rootName name = other
  · rw [if_pos hroot, if_pos hroot, hroot]
  · rw [if_neg hroot, if_neg hroot]

/-- Under a source a table has, for each name, what the fields that begin at it make of what
    the table had. -/
theorem get?_mergeFields (below above : Fields) (name : List Char) :
    (mergeFields below above).get? name
      = (fieldsAt name above).foldl (fun present field => some (field.2.setUnder field.1 present))
          (below.get? name) := by
  -- Only what the table has for the name is carried from one field to the next.
  induction above generalizing below with
  | nil => rfl
  | cons field above ih =>
      rw [mergeFields, List.foldl_cons, ← mergeFields, ih, get?_mergeField, fieldsAt, fieldsAt,
        List.filter_cons]
      by_cases hroot : rootName field.1 = name
      · rw [if_pos hroot, if_pos (decide_eq_true hroot), List.foldl_cons]
      · rw [if_neg hroot, if_neg (decide_eq_false hroot ▸ Bool.false_ne_true)]

theorem readPath?_of_isPlainName {name : List Char} (h : IsPlainName name) :
    readPath? name = some [.name name] := by
  have hall := List.all_eq_true.mp h.2
  have htake : name.takeWhile isPathChar = name := List.takeWhile_eq_self_iff.mpr hall
  have hdrop : name.dropWhile isPathChar = [] := List.dropWhile_eq_nil_iff.mpr hall
  have hne : name.isEmpty = false := List.isEmpty_eq_false_iff.mpr h.1
  simp only [readPath?, htake, hdrop, hne, Bool.false_eq_true, if_false]
  cases name with
  | nil => exact absurd rfl h.1
  | cons => rfl

/-- Where a source says of a plain name what it is and nothing further, that is laid over what
    the table had for the name. -/
theorem get?_mergeFields_of_plain {above : Fields} {name : List Char} {datum : Datum}
    (hplain : IsPlainName name) (h : fieldsAt name above = [(name, datum)]) (below : Fields) :
    (mergeFields below above).get? name = some (datum.laidOver (below.get? name)) := by
  rw [get?_mergeFields, h, List.foldl_cons, List.foldl_nil, Datum.setUnder,
    readPath?_of_isPlainName hplain]
  rfl

theorem laidOver_of_isWhole {datum : Datum} (h : datum.IsWhole) (present : Option Datum) :
    datum.laidOver present = datum := by
  cases datum with
  | scalar value origin => rw [Datum.laidOver]
  | list items origin => rw [Datum.laidOver]
  | table fields origin => exact h.elim

/-- A datum that is taken whole is what the table has, whatever it had before. -/
theorem get?_mergeFields_of_isWhole {above : Fields} {name : List Char} {datum : Datum}
    (hplain : IsPlainName name) (h : fieldsAt name above = [(name, datum)])
    (hwhole : datum.IsWhole) (below : Fields) :
    (mergeFields below above).get? name = some datum := by
  rw [get?_mergeFields_of_plain hplain h, laidOver_of_isWhole hwhole]

theorem get?_mergeFields_of_silent {above : Fields} {name : List Char}
    (h : fieldsAt name above = []) (below : Fields) :
    (mergeFields below above).get? name = below.get? name := by
  rw [get?_mergeFields, h, List.foldl_nil]

end TagNesting
