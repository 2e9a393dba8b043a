import TagNesting.Json.Value
import TagNesting.Text.Bytes

/-!
# Reading JSON

A JSON document read from text, or the reason why it is none and the place where that
shows. The place is a line and a column counted in bytes: how far reading got, or one byte
further when the reason is the byte that comes next.

Inside the reader a place is the number of bytes that are left, which every function knows
without being told where it stands. `readJson` turns it into a line and a column at the
end, the text at hand.

Two limits are part of the format as it is read here. Arrays and objects nest less than
128 deep, and a number that is too large for double precision is refused. The digits of a
number beyond the first nineteen or twenty only count as places, so a number with more
digits can differ from the nearest one in its last bit.

## Main definitions

* `JsonFault`: Why a text is no JSON document.
* `JsonError`: A fault with its place.
* `JsonError.message`: The error in one line.
* `scaledByTen`: A whole number times a power of ten, in double precision.
* `readNumber`, `readText`, `readValue`: The readers of the parts.
* `readJson`: The document that a text holds.
-/

namespace TagNesting

/-- Why a text is no JSON document. -/
inductive JsonFault where
  /-- The text ends inside an array. -/
  | endInArray
  /-- The text ends inside an object. -/
  | endInObject
  /-- The text ends inside a string. -/
  | endInText
  /-- The text ends where a value belongs. -/
  | endInValue
  /-- No colon follows the name of a field. -/
  | missingColon
  /-- Neither a comma nor the end of the array follows an item. -/
  | missingArrayComma
  /-- Neither a comma nor the end of the object follows a field. -/
  | missingObjectComma
  /-- A word begins like `null`, `true` or `false` and goes on otherwise. -/
  | unknownWord
  /-- No value begins here. -/
  | missingValue
  /-- A backslash in a string escapes nothing. -/
  | badEscape
  /-- A number is not written as one. -/
  | badNumber
  /-- A number is too large. -/
  | numberOutOfRange
  /-- A control character stands in a string. -/
  | controlCharacter
  /-- The name of a field is not a string. -/
  | nameNotText
  /-- Half of a surrogate pair is missing. -/
  | loneSurrogate
  /-- No second escape follows the first half of a surrogate pair. -/
  | unfinishedPair
  /-- A comma comes before the end of an array or object. -/
  | trailingComma
  /-- Something follows the document. -/
  | trailingCharacters
  /-- Arrays and objects nest too deep. -/
  | tooDeep
  deriving DecidableEq, Repr

/-- What a fault is, in words. -/
def JsonFault.text : JsonFault → List Char
  | endInArray => "EOF while parsing a list".toList
  | endInObject => "EOF while parsing an object".toList
  | endInText => "EOF while parsing a string".toList
  | endInValue => "EOF while parsing a value".toList
  | missingColon => "expected `:`".toList
  | missingArrayComma => "expected `,` or `]`".toList
  | missingObjectComma => "expected `,` or `\x7d`".toList
  | unknownWord => "expected ident".toList
  | missingValue => "expected value".toList
  | badEscape => "invalid escape".toList
  | badNumber => "invalid number".toList
  | numberOutOfRange => "number out of range".toList
  | controlCharacter =>
      "control character (\\u0000-\\u001F) found while parsing a string".toList
  | nameNotText => "key must be a string".toList
  | loneSurrogate => "lone leading surrogate in hex escape".toList
  | unfinishedPair => "unexpected end of hex escape".toList
  | trailingComma => "trailing comma".toList
  | trailingCharacters => "trailing characters".toList
  | tooDeep => "recursion limit exceeded".toList

/-- A fault with its place. -/
structure JsonError where
  /-- What is wrong. -/
  fault : JsonFault
  /-- The number of the line, counted from one. -/
  line : Nat
  /-- The number of bytes of the line before the place. -/
  column : Nat
  deriving DecidableEq, Repr

/-- The error in one line. -/
def JsonError.message (error : JsonError) : List Char :=
  error.fault.text ++ " at line ".toList ++ decimal error.line ++ " column ".toList ++
    decimal error.column

/-- A fault and the number of bytes that are left behind its place. -/
structure JsonStop where
  /-- What is wrong. -/
  fault : JsonFault
  /-- The number of bytes of the text behind the place. -/
  left : Nat
  deriving DecidableEq, Repr

/-- Reading stops just before the given rest. -/
def stopBefore {α : Type} (fault : JsonFault) (rest : List Char) : Except JsonStop α :=
  .error ⟨fault, byteLength rest⟩

/-- Reading stops just behind the first byte of the given rest, or at its end. -/
def stopInside {α : Type} (fault : JsonFault) (rest : List Char) : Except JsonStop α :=
  .error ⟨fault, byteLength rest - 1⟩

/-- The characters that may stand between the parts of a document. -/
def isJsonSpace (c : Char) : Bool := c == ' ' || c == '\n' || c == '\t' || c == '\r'

/-- The text from its first character on that is no space. -/
def skipJsonSpace (cs : List Char) : List Char := cs.dropWhile isJsonSpace

/-! ## Numbers -/

/-- The largest whole number that is kept exactly. -/
def maxWhole : Nat := 18446744073709551615

/-- The largest magnitude of an exponent. -/
def maxTenExponent : Nat := 2147483647

/-- A whole number times a power of ten, in double precision. It is one multiplication or
    division by a power of ten; below the least power of ten it takes several divisions, of
    which the third at the latest leaves zero. There is no result beyond the largest number. -/
def scaledByTen : (fuel : Nat) → Binary64 → Int → Option Binary64
  | 0, x, _ => some x
  | fuel + 1, x, exponent =>
      if exponent.natAbs ≤ 308 then
        let power := Binary64.ofRatio false (powerOfTen exponent.natAbs) 1
        if 0 ≤ exponent then
          match x.mul power with
          | .infinite _ => none
          | product => some product
        else some (x.div power)
      else if x.isZero then some x
      else if 0 ≤ exponent then none
      else scaledByTen fuel (x.div (Binary64.ofRatio false (powerOfTen 308) 1)) (exponent + 308)

/-- A number with its sign that is a whole number times a power of ten. -/
def decimalNumber (negative : Bool) (whole : Nat) (exponent : Int) (rest : List Char) :
    Except JsonStop (JsonNumber × List Char) :=
  match scaledByTen 5 (Binary64.ofRatio false whole 1) exponent with
  | some x => .ok (.float (if negative then x.neg else x), rest)
  | none => stopBefore .numberOutOfRange rest

/-- Digits taken in as long as the number they make is kept exactly: the number, how many
    digits were taken, and the rest. -/
def takeDigits (whole : Nat) : List Char → Nat × Nat × List Char
  | [] => (whole, 0, [])
  | c :: rest =>
      let next := whole * 10 + digitValue c
      if isDigit c && next ≤ maxWhole then
        let (whole', count, rest') := takeDigits next rest
        (whole', count + 1, rest')
      else (whole, 0, c :: rest)

/-- The digits of an exponent from the second on. The inner result is the exponent, or nothing
    when it is too large; then the digits behind the place are not read. -/
def takeExponent (exponent : Nat) : List Char → Option Nat × List Char
  | [] => (some exponent, [])
  | c :: rest =>
      if isDigit c then
        let next := exponent * 10 + digitValue c
        if next ≤ maxTenExponent then takeExponent next rest else (none, rest)
      else (some exponent, c :: rest)

/-- An exponent held within the bounds of 32 bits. -/
def clampExponent (exponent : Int) : Int :=
  max (-2147483648) (min 2147483647 exponent)

/-- A number from behind the letter of its exponent on. -/
def readExponent (negative : Bool) (whole : Nat) (exponent : Int) (cs : List Char) :
    Except JsonStop (JsonNumber × List Char) :=
  let (down, digits) :=
    match cs with
    | '+' :: rest => (false, rest)
    | '-' :: rest => (true, rest)
    | _ => (false, cs)
  match digits with
  | [] => stopBefore .endInValue []
  | c :: rest =>
      if isDigit c then
        match takeExponent (digitValue c) rest with
        | (some shift, rest') =>
            let exponent' := if down then exponent - shift else exponent + shift
            decimalNumber negative whole (clampExponent exponent') rest'
        | (none, rest') =>
            if whole != 0 && !down then stopBefore .numberOutOfRange rest'
            else
              let zero := Binary64.ofRatio negative 0 1
              .ok (.float zero, rest'.dropWhile isDigit)
      else stopInside .badNumber digits

/-- A number from behind its decimal point on. -/
def readFraction (negative : Bool) (whole : Nat) (exponent : Int) (cs : List Char) :
    Except JsonStop (JsonNumber × List Char) :=
  match cs with
  | [] => stopInside .endInValue []
  | c :: _ =>
      if isDigit c then
        let (whole', count, rest) := takeDigits whole cs
        let exponent' := exponent - count
        match rest.dropWhile isDigit with
        | 'e' :: rest' => readExponent negative whole' exponent' rest'
        | 'E' :: rest' => readExponent negative whole' exponent' rest'
        | rest' => decimalNumber negative whole' exponent' rest'
      else stopInside .badNumber cs

/-- A whole number with its sign. A zero with a sign, and a negative number that does not fit
    64 bits, are kept in double precision. -/
def wholeNumber (negative : Bool) (whole : Nat) : JsonNumber :=
  if !negative then .natural whole
  else if whole = 0 || 9223372036854775808 < whole then
    .float (Binary64.ofRatio true whole 1)
  else .negative whole

/-- A number from behind its sign on. -/
def readNumber (negative : Bool) (cs : List Char) :
    Except JsonStop (JsonNumber × List Char) :=
  match cs with
  | [] => stopBefore .endInValue []
  | c :: rest =>
      if !isDigit c then stopInside .badNumber cs
      else
        let leadingZero := c == '0'
        if leadingZero && (rest.head?.map isDigit).getD false then stopInside .badNumber rest
        else
          let (whole, _, behind) := if leadingZero then (0, 1, rest) else takeDigits 0 cs
          let dropped := behind.takeWhile isDigit
          let exponent : Int := dropped.length
          match behind.dropWhile isDigit with
          | '.' :: rest' => readFraction negative whole exponent rest'
          | 'e' :: rest' => readExponent negative whole exponent rest'
          | 'E' :: rest' => readExponent negative whole exponent rest'
          | rest' =>
              if dropped.isEmpty then .ok (wholeNumber negative whole, rest')
              else decimalNumber negative whole exponent rest'

/-! ## Strings -/

/-- Four hexadecimal digits, as a number. They are looked for in the next four bytes. -/
def readHex (cs : List Char) : Except JsonStop (Nat × List Char) :=
  if byteLength cs < 4 then stopBefore .endInText []
  else
    let digits := cs.take 4
    if digits.all isHexDigit then .ok (numeralValue 16 digits, cs.drop 4)
    else .error ⟨.badEscape, byteLength cs - 4⟩

/-- A character given by its number, from behind the escape's letter on. A number in the upper
    half of the surrogates needs one in the lower half in an escape of its own. -/
def readCodeEscape (cs : List Char) : Except JsonStop (Char × List Char) := do
  let (high, rest) ← readHex cs
  if 0xDC00 ≤ high && high ≤ 0xDFFF then stopBefore .loneSurrogate rest
  else if high < 0xD800 || 0xDBFF < high then .ok (Char.ofNat high, rest)
  else
    match rest with
    | [] => stopBefore .endInText []
    | '\\' :: [] => stopBefore .endInText []
    | '\\' :: 'u' :: rest' =>
        let (low, rest'') ← readHex rest'
        if low < 0xDC00 || 0xDFFF < low then stopBefore .loneSurrogate rest''
        else .ok (Char.ofNat ((high - 0xD800) * 1024 + (low - 0xDC00) + 0x10000), rest'')
    | '\\' :: rest' => stopInside .unfinishedPair rest'
    | _ => stopInside .unfinishedPair rest

/-- The character that an escape stands for, from behind the backslash on. -/
def readEscape (cs : List Char) : Except JsonStop (Char × List Char) :=
  match cs with
  | [] => stopBefore .endInText []
  | '"' :: rest => .ok ('"', rest)
  | '\\' :: rest => .ok ('\\', rest)
  | '/' :: rest => .ok ('/', rest)
  | 'b' :: rest => .ok ('\x08', rest)
  | 'f' :: rest => .ok ('\x0c', rest)
  | 'n' :: rest => .ok ('\n', rest)
  | 'r' :: rest => .ok ('\r', rest)
  | 't' :: rest => .ok ('\t', rest)
  | 'u' :: rest => readCodeEscape rest
  | _ => stopInside .badEscape cs

/-- A string from behind its opening quote on. The fuel bounds the number of characters and
    never runs out, as each of them takes one or more of the text. -/
def readTextFrom : (fuel : Nat) → List Char → Except JsonStop (List Char × List Char)
  | _, [] => stopBefore .endInText []
  | 0, cs => stopBefore .endInText cs
  | fuel + 1, c :: rest =>
      if c = '"' then .ok ([], rest)
      else if c = '\\' then do
        let (decoded, rest') ← readEscape rest
        let (text, rest'') ← readTextFrom fuel rest'
        .ok (decoded :: text, rest'')
      else if c.toNat < 0x20 then stopInside .controlCharacter (c :: rest)
      else do
        let (text, rest') ← readTextFrom fuel rest
        .ok (c :: text, rest')

/-- A string from behind its opening quote on. -/
def readText (cs : List Char) : Except JsonStop (List Char × List Char) :=
  readTextFrom cs.length cs

/-! ## Values -/

/-- The rest behind a word whose first letter has been read. -/
def readWord : List Char → List Char → Except JsonStop (List Char)
  | [], cs => .ok cs
  | _ :: _, [] => stopBefore .endInValue []
  | e :: expected, c :: rest =>
      if c = e then readWord expected rest else stopInside .unknownWord (c :: rest)

mutual

/-- A value, which may still hold arrays and objects `depth - 1` deep. The fuel bounds the
    number of steps: two of them take at least one character. -/
def readValue : (fuel depth : Nat) → List Char → Except JsonStop (Json × List Char)
  | 0, _, cs => stopBefore .endInValue cs
  | fuel + 1, depth, cs =>
      match skipJsonSpace cs with
      | [] => stopInside .endInValue []
      | c :: rest =>
          if c = 'n' then (readWord ['u', 'l', 'l'] rest).map (.null, ·)
          else if c = 't' then (readWord ['r', 'u', 'e'] rest).map (.bool true, ·)
          else if c = 'f' then (readWord ['a', 'l', 's', 'e'] rest).map (.bool false, ·)
          else if c = '-' then
            (readNumber true rest).map fun (number, rest') => (.number number, rest')
          else if isDigit c then
            (readNumber false (c :: rest)).map fun (number, rest') => (.number number, rest')
          else if c = '"' then
            (readText rest).map fun (text, rest') => (.text text, rest')
          else if c = '[' then
            if depth ≤ 1 then stopInside .tooDeep (c :: rest)
            else
              (readItems fuel (depth - 1) true rest).map fun (items, rest') =>
                (.array items, rest')
          else if c = '{' then
            if depth ≤ 1 then stopInside .tooDeep (c :: rest)
            else
              (readFields fuel (depth - 1) true rest).map fun (fields, rest') =>
                (.object fields, rest')
          else stopInside .missingValue (c :: rest)
  termination_by structural fuel => fuel

/-- The items of an array that are left, and its end. Nothing is set apart from the first item
    by a comma. -/
def readItems : (fuel depth : Nat) → (first : Bool) → List Char →
    Except JsonStop (List Json × List Char)
  | 0, _, _, cs => stopBefore .endInArray cs
  | fuel + 1, depth, first, cs =>
      match skipJsonSpace cs with
      | [] => stopInside .endInArray []
      | c :: rest =>
          if c = ']' then .ok ([], rest)
          else if first then do
            let (item, rest') ← readValue fuel depth (c :: rest)
            let (items, rest'') ← readItems fuel depth false rest'
            .ok (item :: items, rest'')
          else if c = ',' then
            match skipJsonSpace rest with
            | [] => stopInside .endInValue []
            | d :: behind =>
                if d = ']' then stopInside .trailingComma (d :: behind)
                else do
                  let (item, rest') ← readValue fuel depth (d :: behind)
                  let (items, rest'') ← readItems fuel depth false rest'
                  .ok (item :: items, rest'')
          else stopInside .missingArrayComma (c :: rest)
  termination_by structural fuel => fuel

/-- The fields of an object that are left, and its end. -/
def readFields : (fuel depth : Nat) → (first : Bool) → List Char →
    Except JsonStop (List (List Char × Json) × List Char)
  | 0, _, _, cs => stopBefore .endInObject cs
  | fuel + 1, depth, first, cs =>
      match skipJsonSpace cs with
      | [] => stopInside .endInObject []
      | c :: rest =>
          if c = '}' then .ok ([], rest)
          else if first then
            if c = '"' then readField fuel depth rest
            else stopInside .nameNotText (c :: rest)
          else if c = ',' then
            match skipJsonSpace rest with
            | [] => stopInside .endInValue []
            | d :: behind =>
                if d = '"' then readField fuel depth behind
                else if d = '}' then stopInside .trailingComma (d :: behind)
                else stopInside .nameNotText (d :: behind)
          else stopInside .missingObjectComma (c :: rest)
  termination_by structural fuel => fuel

/-- A field from behind the opening quote of its name on, and the fields behind it. -/
def readField : (fuel depth : Nat) → List Char →
    Except JsonStop (List (List Char × Json) × List Char)
  | 0, _, cs => stopBefore .endInObject cs
  | fuel + 1, depth, cs => do
      let (name, rest) ← readText cs
      match skipJsonSpace rest with
      | [] => stopInside .endInObject []
      | c :: behind =>
          if c = ':' then do
            let (value, rest') ← readValue fuel depth behind
            let (fields, rest'') ← readFields fuel depth false rest'
            .ok ((name, value) :: fields, rest'')
          else stopInside .missingColon (c :: behind)
  termination_by structural fuel => fuel

end

/-! ## Documents -/

/-- The line and the column of a place, which lies behind the given number of bytes. -/
def lineAndColumn (line column : Nat) : Nat → List Char → Nat × Nat
  | 0, _ => (line, column)
  | bytes, [] => (line, column + bytes)
  | bytes, c :: rest =>
      if bytes < c.utf8Size then (line, column + bytes)
      else if c = '\n' then lineAndColumn (line + 1) 0 (bytes - 1) rest
      else lineAndColumn line (column + c.utf8Size) (bytes - c.utf8Size) rest

/-- How deep arrays and objects may nest, less one. -/
def maxJsonDepth : Nat := 128

/-- The document that a text holds. -/
def readJson (text : List Char) : Except JsonError Json :=
  let locate := fun stop : JsonStop =>
    let place := lineAndColumn 1 0 (byteLength text - stop.left) text
    JsonError.mk stop.fault place.1 place.2
  match readValue (4 * text.length + 4) maxJsonDepth text with
  | .error stop => .error (locate stop)
  | .ok (value, rest) =>
      match skipJsonSpace rest with
      | [] => .ok value
      | c :: behind => .error (locate ⟨.trailingCharacters, byteLength (c :: behind) - 1⟩)

end TagNesting
