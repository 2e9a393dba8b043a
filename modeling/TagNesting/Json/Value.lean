import TagNesting.Number.Shortest

/-!
# JSON Values

The values a JSON document can hold. An object keeps its fields in the order in which they
stand, duplicates included; `field?` is the look-up, and the last of several fields with
one name is the one that counts.

Numbers come in three sorts, because a whole number that fits 64 bits is exact and any
other number is rounded to double precision.

## Main definitions

* `JsonNumber`: A whole number or a double precision number.
* `Json`: A JSON value.
* `Json.field?`: The value of a field of an object.
-/

namespace TagNesting

/-- A number in a JSON document. -/
inductive JsonNumber where
  /-- A whole number that is not negative. -/
  | natural (n : Nat)
  /-- The negative of a positive whole number. -/
  | negative (n : Nat)
  /-- Any other number. -/
  | float (x : Binary64)
  deriving DecidableEq, Repr

/-- A JSON value. -/
inductive Json where
  /-- The value `null`. -/
  | null
  /-- A truth value. -/
  | bool (value : Bool)
  /-- A number. -/
  | number (value : JsonNumber)
  /-- A string. -/
  | text (value : List Char)
  /-- An array. -/
  | array (items : List Json)
  /-- An object, its fields as they stand. -/
  | object (fields : List (List Char × Json))
  deriving Repr

namespace Json

/-- A whole number that is not negative. -/
def ofNat (n : Nat) : Json := .number (.natural n)

/-- The value of the last field with the given name, if the value is an object with one. -/
def field? (name : List Char) : Json → Option Json
  | .object fields => (fields.reverse.find? fun field => field.1 == name).map (·.2)
  | _ => none

end Json

end TagNesting
