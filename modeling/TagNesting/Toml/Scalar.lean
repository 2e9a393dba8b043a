import TagNesting.Number.Binary64
import TagNesting.Toml.Date
import TagNesting.Toml.Quoted
import TagNesting.Toml.Syntax

/-!
# TOML Values

The values of TOML, and those among them that are written without brackets: strings,
numbers, truth values, dates and times. Whole numbers have as many digits as they like
here; that they have to fit 64 bits is checked of a whole document at the end, and so is
that no number is beyond double precision.

## Main definitions

* `Value`: A TOML value.
* `plainDigits?`: Digits with single underscores between them.
* `number?`: The number that a text is.
* `Token.scalar`: The value that a token is.
* `Token.key`: The key that a token is.
* `RawValue.rangeFault?`: The first number of a value that is too large.
-/

namespace TagNesting.Toml

/-- A TOML value. Dates and times are kept as text. -/
inductive Value where
  /-- A string. -/
  | text (value : List Char)
  /-- A whole number. -/
  | integer (value : Int)
  /-- A number in double precision. -/
  | float (value : Binary64)
  /-- A truth value. -/
  | bool (value : Bool)
  /-- A date or a time. -/
  | date (value : List Char)
  /-- An array. -/
  | array (items : List Value)
  /-- A table, its keys all different. -/
  | table (fields : List (List Char × Value))
  deriving Repr

/-! ## Numbers -/

/-- Digits without the underscores between them. An underscore has a digit on either side. -/
def plainDigits? (belongs : Char → Bool) : List Char → Option (List Char)
  | [] => none
  | [c] => if belongs c then some [c] else none
  | c :: '_' :: rest =>
      if belongs c then (plainDigits? belongs rest).map (c :: ·) else none
  | c :: rest => if belongs c then (plainDigits? belongs rest).map (c :: ·) else none

/-- The digits of a whole number in decimal, which has no leading zero unless it is zero. -/
def wholeDigits? (cs : List Char) : Option (List Char) :=
  match plainDigits? isDigit cs with
  | some ('0' :: _ :: _) => none
  | digits => digits

/-- The exponent that a text is, from behind its letter on. -/
def exponent? (cs : List Char) : Option Int :=
  match cs with
  | '-' :: rest =>
      (plainDigits? isDigit rest).map fun digits => -(numeralValue 10 digits : Int)
  | '+' :: rest => (plainDigits? isDigit rest).map fun digits => (numeralValue 10 digits : Int)
  | _ => (plainDigits? isDigit cs).map fun digits => (numeralValue 10 digits : Int)

/-- The character belongs to the digits of a number. -/
def inDigits (c : Char) : Bool := isDigit c || c == '_'

/-- The number in double precision that is made of the digits before the point, the digits
    behind it, and the text behind those: nothing or an exponent. -/
def fraction? (negative : Bool) (whole places rest : List Char) : Option Binary64 :=
  let make := fun (exponent : Int) =>
    Binary64.ofDecimal negative (numeralValue 10 (whole ++ places))
      (exponent - (places.length : Int))
  match rest with
  | [] => some (make 0)
  | letter :: rest' => if letter == 'e' || letter == 'E' then (exponent? rest').map make else none

/-- The decimal number that a text without its sign is. -/
def decimal? (negative : Bool) (cs : List Char) : Option Value := do
  let whole ← wholeDigits? (cs.takeWhile inDigits)
  match cs.dropWhile inDigits with
  | [] =>
      let value : Int := numeralValue 10 whole
      some (.integer (if negative then -value else value))
  | '.' :: rest =>
      let places ← plainDigits? isDigit (rest.takeWhile inDigits)
      (fraction? negative whole places (rest.dropWhile inDigits)).map .float
  | rest => (fraction? negative whole [] rest).map .float

/-- The character is a digit in the given base, which is at most sixteen. -/
def isDigitIn (base : Nat) (c : Char) : Bool := isHexDigit c && digitValue c < base

/-- The whole number that digits in a base make. -/
def integerIn? (base : Nat) (cs : List Char) : Option Value :=
  (plainDigits? (isDigitIn base) cs).map fun digits => .integer (numeralValue base digits)

/-- The number that a text is. Only a number in decimal can have a sign. -/
def number? (cs : List Char) : Option Value :=
  match cs with
  | '0' :: 'x' :: rest => integerIn? 16 rest
  | '0' :: 'o' :: rest => integerIn? 8 rest
  | '0' :: 'b' :: rest => integerIn? 2 rest
  | '+' :: rest => decimal? false rest
  | '-' :: rest => decimal? true rest
  | _ => decimal? false cs

/-! ## Words -/

/-- The text begins with digits and goes on like a date or a time. -/
def startsDate (cs : List Char) : Bool :=
  match cs.dropWhile isDigit with
  | '-' :: _ => (cs.head?.map isDigit).getD false
  | ':' :: _ => (cs.head?.map isDigit).getD false
  | _ => false

/-- The text without the sign that it may begin with. -/
def unsigned (cs : List Char) : List Char :=
  match cs with
  | '+' :: rest => rest
  | '-' :: rest => rest
  | _ => cs

/-- The value that a text without quotes is. -/
def wordValue (cs : List Char) : Except Fault Value :=
  let known := fun (word : String) (value : Value) =>
    if unsigned cs = word.toList then Except.ok value else .error Fault.unknownWord
  let signed := unsigned cs != cs
  match unsigned cs with
  | [] => .error .unquotedText
  | c :: _ =>
      if isDigit c || c == '_' || c == '.' then
        if !signed && startsDate cs then
          match dateText? cs with
          | some date => .ok (.date date)
          | none => .error .badDate
        else
          match number? cs with
          | some number => .ok number
          | none => .error .badNumber
      else if c == 'i' || c == 'I' then
        known "inf" (.float (.infinite (cs.head? == some '-')))
      else if c == 'n' || c == 'N' then known "nan" (.float .nan)
      else if signed then .error .unquotedText
      else if c == 't' || c == 'T' then known "true" (.bool true)
      else if c == 'f' || c == 'F' then known "false" (.bool false)
      else .error .unquotedText

/-- The value that a token is. -/
def Token.scalar (token : Token) : Except SyntaxError Value :=
  if token.kind = .word then
    (wordValue token.text).mapError fun fault => ⟨fault, token.start, token.stop⟩
  else token.quotedText.map Value.text

/-- The character may stand in a key without quotes. -/
def isKeyChar (c : Char) : Bool := c.isAlphanum || c == '-' || c == '_'

/-- The key that a token is. -/
def Token.key (token : Token) : Except SyntaxError (List Char) :=
  match token.kind with
  | .word =>
      let sound := token.text.takeWhile isKeyChar
      if token.text.isEmpty then .error ⟨.emptyKey, token.start, token.start⟩
      else if sound.length = token.text.length then .ok token.text
      else
        let place := token.start + byteLength sound
        .error ⟨.keyCharacter, place, place + 1⟩
  | .longBasic | .longLiteral => .error ⟨.longKey, token.start, token.stop⟩
  | _ => token.quotedText

/-! ## Ranges -/

/-- The largest whole number that is kept. The smallest is one further away from zero. -/
def integerBound : Nat := 9223372036854775807

/-- The value is a number that is too large to be kept. Infinity is only too large where it is
    not written as such. -/
def rangeFault? (token : Token) : Option Fault :=
  match token.scalar with
  | .ok (.integer value) =>
      if value < -(integerBound : Int) - 1 || (integerBound : Int) < value then some .integerRange
      else none
  | .ok (.float (.infinite _)) =>
      if (unsigned token.text).head? = some 'i' then none else some .floatRange
  | _ => none

mutual

/-- The first number of a value that is too large to be kept. -/
def RawValue.rangeFault? : RawValue → Option SyntaxError
  | .scalar token => (Toml.rangeFault? token).map fun fault => ⟨fault, token.start, token.stop⟩
  | .array items _ _ => rangeFaultInItems? items
  | .table fields _ _ => rangeFaultInFields? fields

/-- The first number of some values that is too large to be kept. -/
def rangeFaultInItems? : List RawValue → Option SyntaxError
  | [] => none
  | item :: rest =>
      match item.rangeFault? with
      | some error => some error
      | none => rangeFaultInItems? rest

/-- The first number of some fields that is too large to be kept. -/
def rangeFaultInFields? : List (List Token × RawValue) → Option SyntaxError
  | [] => none
  | (_, value) :: rest =>
      match value.rangeFault? with
      | some error => some error
      | none => rangeFaultInFields? rest

end

end TagNesting.Toml
