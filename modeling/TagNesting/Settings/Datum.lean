import TagNesting.Json.Reader
import TagNesting.Toml.Document

/-!
# Data of Settings

What settings are made of before it is known what they are for: scalars, lists and tables,
from whichever sort of file. A datum remembers the file that it came from, so that a
message about it can name the file; data from a package file have no such origin, nor has
what was put together from several files.

Whole numbers are those of 64 bits, in TOML with a sign and in JSON with or without one. A
larger one is no TOML, and in JSON it has been read in double precision. Such numbers, and
those with a fraction, are written and read once more on their way from a JSON document,
which can change their last bit.

## Main definitions

* `Scalar`, `Datum`: The data.
* `Fields.get?`, `Fields.put`: Looking up and replacing what a table has for a name.
* `Datum.ofToml`, `Datum.ofJson`: The data of the two sorts of files.
-/

namespace TagNesting

/-- A datum that has no parts. -/
inductive Scalar where
  /-- Nothing. -/
  | null
  /-- A truth value. -/
  | bool (value : Bool)
  /-- A whole number. -/
  | integer (value : Int)
  /-- A number in double precision. -/
  | float (value : Binary64)
  /-- A text. -/
  | text (value : List Char)
  deriving DecidableEq, Repr

/-- A datum, with the file it came from if that is known. -/
inductive Datum where
  /-- A datum without parts. -/
  | scalar (value : Scalar) (origin : Option (List Char))
  /-- A list. -/
  | list (items : List Datum) (origin : Option (List Char))
  /-- A table, its names all different. -/
  | table (fields : List (List Char × Datum)) (origin : Option (List Char))
  deriving Repr

/-- What a table holds, each part with its name. -/
abbrev Fields : Type := List (List Char × Datum)

namespace Fields

/-- What a table has for a name. -/
def get? (fields : Fields) (name : List Char) : Option Datum :=
  (List.find? (fun field => field.1 == name) fields).map (·.2)

/-- The same table with another datum for a name, which comes last if the name is new. -/
def put (name : List Char) (datum : Datum) : Fields → Fields
  | [] => [(name, datum)]
  | (other, present) :: rest =>
      if other = name then (name, datum) :: rest else (other, present) :: put name datum rest

end Fields

namespace Datum

/-- Nothing, from no file. -/
def missing : Datum := .scalar .null none

/-- The file that a datum came from. -/
def origin : Datum → Option (List Char)
  | scalar _ origin => origin
  | list _ origin => origin
  | table _ origin => origin

mutual

/-- A TOML value as a datum. Dates and times are texts. -/
def ofToml (origin : Option (List Char)) : Toml.Value → Datum
  | .text value => .scalar (.text value) origin
  | .integer value => .scalar (.integer value) origin
  | .float value => .scalar (.float value) origin
  | .bool value => .scalar (.bool value) origin
  | .date value => .scalar (.text value) origin
  | .array items => .list (ofTomlItems origin items) origin
  | .table fields => .table (ofTomlFields origin fields) origin

/-- TOML values as data. -/
def ofTomlItems (origin : Option (List Char)) : List Toml.Value → List Datum
  | [] => []
  | item :: rest => ofToml origin item :: ofTomlItems origin rest

/-- The fields of a TOML table as data. -/
def ofTomlFields (origin : Option (List Char)) : List (List Char × Toml.Value) → Fields
  | [] => []
  | (name, value) :: rest => (name, ofToml origin value) :: ofTomlFields origin rest

end

/-- The number that is read from the shortest text for a number. Below 10 ^ 16 the text of a
    whole number has all its digits and one behind the point; any other text comes down to
    the digits and a power of ten. -/
def rereadFloat (x : Binary64) : Binary64 :=
  match x with
  | .finite negative mantissa exponent =>
      if mantissa = 0 then x
      else
        let (digits, place) := shortestDigits mantissa exponent
        let read :=
          if 0 ≤ place && ((decimal digits).length : Int) + place ≤ 16 then
            scaledByTen 5 (Binary64.ofRatio false (digits * powerOfTen (place.toNat + 1)) 1) (-1)
          else scaledByTen 5 (Binary64.ofRatio false digits 1) place
        match read with
        | some y => if negative then y.neg else y
        | none => x
  | _ => x

/-- A JSON number as a scalar. A whole number stays what it is. -/
def ofJsonNumber : JsonNumber → Scalar
  | .natural n => .integer n
  | .negative n => .integer (-(n : Int))
  | .float x => .float (rereadFloat x)

mutual

/-- A JSON value as a datum. -/
def ofJson : Json → Datum
  | .null => .scalar .null none
  | .bool value => .scalar (.bool value) none
  | .number value => .scalar (ofJsonNumber value) none
  | .text value => .scalar (.text value) none
  | .array items => .list (ofJsonItems items) none
  | .object fields => .table (ofJsonFields [] fields) none

/-- JSON values as data. -/
def ofJsonItems : List Json → List Datum
  | [] => []
  | item :: rest => ofJson item :: ofJsonItems rest

/-- The fields of a JSON object put into a table. The last field of a name counts. -/
def ofJsonFields (fields : Fields) : List (List Char × Json) → Fields
  | [] => fields
  | (name, value) :: rest => ofJsonFields (fields.put name (ofJson value)) rest

end

end Datum

end TagNesting
