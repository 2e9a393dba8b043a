import TagNesting.Settings.Datum
import TagNesting.Text.Class

/-!
# Merging Settings

How the data of one source are laid over those of the sources below it. The names of a
source's outermost table are paths: `a.b` is `b` in the table `a`, `a[1]` is the second item
of the list `a`, and `a[-1]` its last. A name that is no path stands for itself, and so
does every name further inside.

What a path leads to is made where it is not there yet, whatever was there instead gives
way, and items that a list is short of are nothing. A table is laid over a table name by
name; anything else replaces what was there as a whole, a list as much as a number.

## Main definitions

* `PathStep`: One step of a path.
* `readPath?`: The path that a name is.
* `Datum.laidOver`: A datum laid over what was there.
* `Datum.setAlong`: A datum laid over what a path leads to.
* `mergeFields`: The data of a source laid over a table.
-/

namespace TagNesting

/-- One step of a path. -/
inductive PathStep where
  /-- To what a table has for a name. -/
  | name (name : List Char)
  /-- To an item of a list, counted from its end if negative. -/
  | index (index : Int)
  deriving DecidableEq, Repr

/-- The character may stand in a name on a path. -/
def isPathChar (c : Char) : Bool := c.isAlphanum || c == '_' || c == '-'

/-- The least index, in magnitude, that is too large. -/
def indexBound : Nat := 9223372036854775808

/-- The index that a text is. -/
def readIndex? (cs : List Char) : Option Int :=
  let (negative, digits) :=
    match cs with
    | '-' :: rest => (true, rest)
    | _ => (false, cs)
  let value := numeralValue 10 digits
  if digits.isEmpty || !digits.all isDigit then none
  else if negative then if value ≤ indexBound then some (-(value : Int)) else none
  else if value < indexBound then some value
  else none

/-- The steps that a text is, behind the first name of a path. The fuel bounds their number,
    and each of them takes at least one character. -/
def readSteps? : (fuel : Nat) → List Char → Option (List PathStep)
  | _, [] => some []
  | 0, _ :: _ => none
  | fuel + 1, '.' :: rest =>
      let name := rest.takeWhile isPathChar
      if name.isEmpty then none
      else (readSteps? fuel (rest.dropWhile isPathChar)).map (.name name :: ·)
  | fuel + 1, '[' :: rest =>
      let inside := rest.takeWhile (· != ']')
      match rest.dropWhile (· != ']') with
      | _ :: rest' => do
          let index ← readIndex? (trimBy (fun c => c == ' ' || c == '\t') inside)
          let steps ← readSteps? fuel rest'
          some (.index index :: steps)
      | [] => none
  | _ + 1, _ => none

/-- The path that a name is, if it is one. -/
def readPath? (cs : List Char) : Option (List PathStep) :=
  let name := cs.takeWhile isPathChar
  if name.isEmpty then none
  else (readSteps? cs.length (cs.dropWhile isPathChar)).map (.name name :: ·)

/-- A list with another item in one place, and nothing in the places before it that the list
    does not have. -/
def putItem (item : Datum) : (place : Nat) → List Datum → List Datum
  | 0, [] => [item]
  | 0, _ :: rest => item :: rest
  | place + 1, [] => Datum.missing :: putItem item place []
  | place + 1, present :: rest => present :: putItem item place rest

/-- Where an index leads in a list: how many items have to be put before the list, and the
    place in what that makes. -/
def placeOfIndex (index : Int) (length : Nat) : Nat × Nat :=
  if 0 ≤ index then (0, index.toNat)
  else if index.natAbs ≤ length then (0, length - index.natAbs)
  else (index.natAbs - length, 0)

namespace Datum

mutual

/-- A datum laid over what was there. -/
def laidOver (below : Option Datum) : Datum → Datum
  | .table fields _ =>
      match below with
      | some (.table present origin) => .table (fieldsLaidOver present fields) origin
      | _ => .table (fieldsLaidOver [] fields) none
  | .scalar value origin => .scalar value origin
  | .list items origin => .list items origin

/-- The fields of a table laid over those of another. -/
def fieldsLaidOver (present : Fields) : List (List Char × Datum) → Fields
  | [] => present
  | (name, datum) :: rest =>
      fieldsLaidOver (present.put name (laidOver (present.get? name) datum)) rest

end

/-- A datum laid over what a path leads to from what was there. -/
def setAlong (datum : Datum) : List PathStep → (below : Option Datum) → Datum
  | [], below => laidOver below datum
  | .name name :: steps, below =>
      let (fields, origin) :=
        match below with
        | some (.table fields origin) => (fields, origin)
        | _ => ([], none)
      .table (Fields.put name (setAlong datum steps (Fields.get? fields name)) fields) origin
  | .index index :: steps, below =>
      let (items, origin) :=
        match below with
        | some (.list items origin) => (items, origin)
        | _ => ([], none)
      let (short, place) := placeOfIndex index items.length
      let items := List.replicate short missing ++ items
      .list (putItem (setAlong datum steps items[place]?) place items) origin

end Datum

/-- The fields with one name of a source laid over them. -/
def mergeField (fields : Fields) (name : List Char) (datum : Datum) : Fields :=
  match readPath? name with
  | some (.name first :: steps) =>
      fields.put first (datum.setAlong steps (fields.get? first))
  | _ => fields.put name (datum.laidOver (fields.get? name))

/-- The data of a source laid over a table. -/
def mergeFields (below : Fields) (above : Fields) : Fields :=
  above.foldl (fun fields field => mergeField fields field.1 field.2) below

end TagNesting
