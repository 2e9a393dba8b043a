import TagNesting.Number.Whole
import TagNesting.OutputFormat
import TagNesting.Settings.Datum
import TagNesting.Text.Literal
import TagNesting.Text.LowerCase

/-!
# Settings

The four settings and how they are read from data. Data are taken generously: a number can
be given as text, as a fraction or as a truth value, a truth value as a number or as one of
a few words, and an element of the list of names as anything but a table, a list or
nothing. What cannot be taken is a fault that says what was found and what was wanted.

A fault that concerns one scalar, or an element of a list, says which file it is in, if it
is in one; a fault of shape does not.

## Main definitions

* `Settings`: The settings, with their defaults.
* `SettingFault`: Why data make no settings.
* `SettingFault.message`: The fault in one line.
* `readLimit`, `readFlag`, `readNames`, `readFormat`: The readers of the four settings.
* `Settings.ofFields`: The settings that a table makes.
-/

namespace TagNesting

/-- The settings. -/
structure Settings where
  /-- How many findings are shown at most; zero shows all. -/
  reportLimit : Nat := 20
  /-- Findings make the check fail. -/
  failOnError : Bool := false
  /-- The names of void elements, if they are not the usual ones. -/
  voidElements : Option (List (List Char)) := none
  /-- The format of the report. -/
  format : OutputFormat := .text
  deriving DecidableEq, Repr

/-- Why data make no settings. -/
inductive SettingFault where
  /-- A datum is of the wrong sort. -/
  | wrongType (found wanted key : List Char) (origin : Option (List Char))
  /-- There is no list where one is wanted. -/
  | notList (found key : List Char)
  /-- There is no format of that name. -/
  | unknownFormat (name : List Char)
  /-- A format is neither a text nor a table with one name. -/
  | formatShape
  deriving DecidableEq, Repr

/-- The setting that a fault is about. -/
def forKey (key : List Char) : List Char := " for key `".toList ++ key ++ ['`']

/-- The fault in one line. -/
def SettingFault.message : SettingFault → List Char
  | wrongType found wanted key origin =>
      let place :=
        match origin with
        | some file => " in ".toList ++ file
        | none => []
      "invalid type: ".toList ++ found ++ ", expected ".toList ++ wanted ++ forKey key ++ place
  | notList found key =>
      "invalid type: ".toList ++ found ++ ", expected a sequence".toList ++ forKey key
  | unknownFormat name =>
      "enum OutputFormat does not have variant constructor ".toList ++ name ++
        forKey "format".toList
  | formatShape =>
      "value of enum OutputFormat should be represented by either string or table ".toList ++
        "with exactly one key".toList ++ forKey "format".toList

/-- A whole number with its sign. -/
def signedDecimal (n : Int) : List Char :=
  if n < 0 then '-' :: decimal n.natAbs else decimal n.natAbs

/-- What a datum is, in words. -/
def Datum.description : Datum → List Char
  | .scalar .null _ => "unit value".toList
  | .scalar (.bool value) _ =>
      "boolean `".toList ++ (if value then "true`".toList else "false`".toList)
  | .scalar (.integer value) _ => "integer `".toList ++ signedDecimal value ++ ['`']
  | .scalar (.float value) _ => "floating point `".toList ++ value.pointText ++ ['`']
  | .scalar (.text value) _ => "string ".toList ++ literalText value
  | .list .. => "sequence".toList
  | .table .. => "map".toList

/-- The text means yes. -/
def meansYes (cs : List Char) : Bool :=
  cs == "true".toList || cs == "on".toList || cs == "yes".toList

/-- The text means no. -/
def meansNo (cs : List Char) : Bool :=
  cs == "false".toList || cs == "off".toList || cs == "no".toList

/-- The limit that a datum is. A fraction is rounded, half of one upwards, and held between
    zero and the largest number; a negative whole number is refused. -/
def readLimit (datum : Datum) : Except SettingFault Nat :=
  let key := "report_limit".toList
  let refuse := fun (found : List Char) =>
    .error (.wrongType found "an integer".toList key datum.origin)
  match datum with
  | .scalar (.integer value) origin =>
      if value < 0 then
        .error (.wrongType ("64-bit integer `".toList ++ signedDecimal value ++ ['`'])
          "an unsigned 64 bit or less integer".toList key origin)
      else .ok value.toNat
  | .scalar (.bool value) _ => .ok (if value then 1 else 0)
  | .scalar (.float value) _ => .ok (value.roundToNat wholeBound)
  | .scalar (.text value) _ =>
      if meansYes (lowerText value) then .ok 1
      else if meansNo (lowerText value) then .ok 0
      else
        match readWhole value with
        | .ok limit => .ok limit
        | .error _ => refuse datum.description
  | _ => refuse datum.description

/-- The truth value that a datum is. -/
def readFlag (datum : Datum) : Except SettingFault Bool :=
  let refuse := fun (found : List Char) =>
    .error (.wrongType found "a boolean".toList "fail_on_error".toList datum.origin)
  match datum with
  | .scalar (.bool value) _ => .ok value
  | .scalar (.integer value) _ => .ok (value != 0)
  | .scalar (.float value) _ => .ok !value.isZero
  | .scalar (.text value) _ =>
      let word := lowerText value
      if word = ['1'] || meansYes word then .ok true
      else if word = ['0'] || meansNo word then .ok false
      else refuse ("string ".toList ++ literalText word)
  | _ => refuse datum.description

/-- The name that an element of the list is, the one with the given index. -/
def readName (index : Nat) (datum : Datum) : Except SettingFault (List Char) :=
  match datum with
  | .scalar (.text value) _ => .ok value
  | .scalar (.bool value) _ => .ok (if value then "true".toList else "false".toList)
  | .scalar (.integer value) _ => .ok (signedDecimal value)
  | .scalar (.float value) _ => .ok value.plainText
  | _ =>
      .error (.wrongType datum.description "a string".toList
        ("void_elements[".toList ++ decimal index ++ [']']) datum.origin)

/-- The names that a datum is, if it is not nothing. -/
def readNames (datum : Datum) : Except SettingFault (Option (List (List Char))) :=
  match datum with
  | .scalar .null _ => .ok none
  | .list items _ =>
      (items.zipIdx.mapM fun (item, index) => readName index item).map some
  | _ => .error (.notList datum.description "void_elements".toList)

/-- The format of a name. -/
def formatOfName (name : List Char) : Except SettingFault OutputFormat :=
  match OutputFormat.ofExactName? name with
  | some format => .ok format
  | none => .error (.unknownFormat name)

/-- The format that a datum is: its name, or a table with its name and nothing else. -/
def readFormat (datum : Datum) : Except SettingFault OutputFormat :=
  match datum with
  | .scalar (.text name) _ => formatOfName name
  | .table [(name, _)] _ => formatOfName name
  | _ => .error .formatShape

/-- What a table says about a setting, or the default if it says nothing. -/
def readSetting {α : Type} (fields : Fields) (name : String) (default : α)
    (read : Datum → Except SettingFault α) : Except SettingFault α :=
  match fields.get? name.toList with
  | some datum => read datum
  | none => .ok default

/-- The settings that a table makes. What else is in it does not matter. -/
def Settings.ofFields (fields : Fields) : Except SettingFault Settings := do
  let defaults : Settings := {}
  let limit ← readSetting fields "report_limit" defaults.reportLimit readLimit
  let fail ← readSetting fields "fail_on_error" defaults.failOnError readFlag
  let names ← readSetting fields "void_elements" defaults.voidElements readNames
  let format ← readSetting fields "format" defaults.format readFormat
  .ok ⟨limit, fail, names, format⟩

end TagNesting
