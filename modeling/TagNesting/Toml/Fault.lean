import TagNesting.Text.Bytes
import TagNesting.Text.Decimal

/-!
# Faults in TOML

Why a text is no TOML document, and where that shows. A fault covers a range of bytes, and
it is reported with the line it begins on, the range underlined.

Lines and columns are counted from one, and a column is a number of characters. A place at
the very end of the document belongs to its last line, even if that line has been ended.

## Main definitions

* `Fault`: Why a text is no TOML document.
* `Fault.text`: The reason in words.
* `SyntaxError`: A fault with its place.
* `linePlace`: The line and the column of a place.
* `SyntaxError.message`: The error with an excerpt of the document.
-/

namespace TagNesting.Toml

/-- Why a text is no TOML document. -/
inductive Fault where
  /-- A carriage return stands without a line feed. -/
  | bareReturn
  /-- A control character stands in a comment. -/
  | commentCharacter
  /-- No equals sign follows a key. -/
  | missingEquals
  /-- A key should begin here. -/
  | missingKey
  /-- A closing square bracket stands where a line begins. -/
  | unopenedTable
  /-- The header of a table is not closed. -/
  | unclosedTable
  /-- The header of an array of tables is not closed. -/
  | unclosedTables
  /-- Something follows on the line of a header or a value. -/
  | trailingText
  /-- An equals sign stands where a value belongs. -/
  | extraEquals
  /-- A closing square bracket stands where a value belongs. -/
  | unopenedArray
  /-- A closing curly bracket stands where a value belongs. -/
  | unopenedInline
  /-- An array is not closed. -/
  | unclosedArray
  /-- An inline table is not closed. -/
  | unclosedInline
  /-- A comma stands where an item belongs. -/
  | extraComma
  /-- No comma stands between two items. -/
  | missingComma
  /-- Arrays and inline tables nest too deep. -/
  | tooDeep
  /-- A key without quotes is empty. -/
  | emptyKey
  /-- A key without quotes holds other characters than it may. -/
  | keyCharacter
  /-- A string that may span lines is used as a key. -/
  | longKey
  /-- A value without quotes is none of those that go without. -/
  | unquotedText
  /-- A word begins like a truth value or a special number and is none. -/
  | unknownWord
  /-- A number is not written as one. -/
  | badNumber
  /-- A date or a time is not written as one. -/
  | badDate
  /-- A string is not closed. -/
  | unclosedText
  /-- A control character stands in a string. -/
  | textCharacter
  /-- A backslash in a string escapes nothing. -/
  | badEscape
  /-- A key has been given before. -/
  | duplicateKey
  /-- A key leads into something that is no table that could be extended. -/
  | closedValue
  /-- A whole number does not fit 64 bits. -/
  | integerRange
  /-- A number is beyond double precision. -/
  | floatRange
  deriving DecidableEq, Repr

/-- The reason in words. -/
def Fault.text : Fault → List Char
  | bareReturn => "carriage return must be followed by newline, expected newline".toList
  | commentCharacter => "invalid comment character, expected printable characters".toList
  | missingEquals => "key with no value, expected `=`".toList
  | missingKey => "missing key, expected key".toList
  | unopenedTable => "missing table open, expected `[`".toList
  | unclosedTable => "unclosed table, expected `]`".toList
  | unclosedTables => "unclosed array table, expected `]]`".toList
  | trailingText => "unexpected key or value, expected newline, `#`".toList
  | extraEquals => "extra `=`, expected nothing".toList
  | unopenedArray => "missing array opening, expected `[`".toList
  | unopenedInline => "missing inline table opening, expected `\x7b`".toList
  | unclosedArray => "unclosed array, expected `]`".toList
  | unclosedInline => "unclosed inline table, expected `\x7d`".toList
  | extraComma => "extra comma, expected value".toList
  | missingComma => "missing comma between elements, expected `,`".toList
  | tooDeep => "cannot recurse further; max recursion depth met".toList
  | emptyKey =>
      "unquoted keys cannot be empty, expected letters, numbers, `-`, `_`".toList
  | keyCharacter => "invalid unquoted key, expected letters, numbers, `-`, `_`".toList
  | longKey => "keys cannot be multi-line strings, expected basic string".toList
  | unquotedText => "string values must be quoted, expected literal string".toList
  | unknownWord => "invalid value, expected `true`, `false`, `inf`, `nan`".toList
  | badNumber => "invalid number, expected digits".toList
  | badDate => "invalid datetime".toList
  | unclosedText => "invalid string, expected closing quote".toList
  | textCharacter => "invalid string character, expected printable characters".toList
  | badEscape => "missing escaped value, expected escape sequence".toList
  | duplicateKey => "duplicate key".toList
  | closedValue => "cannot extend value with a dotted key".toList
  | integerRange => "integer number overflowed".toList
  | floatRange => "floating-point number overflowed".toList

/-- A fault with the range of bytes that it covers. -/
structure SyntaxError where
  /-- What is wrong. -/
  fault : Fault
  /-- The place where the range begins. -/
  start : Nat
  /-- The place behind the range. -/
  stop : Nat
  deriving DecidableEq, Repr

/-- The characters of the last line of a text, the last one first. -/
def lastLineReversed (text : List Char) : List Char :=
  text.reverse.takeWhile (· != '\n')

/-- The line and the column of a place in a document, both counted from zero. A place inside a
    line is as many characters into it as stand before it; if the place is within a character
    of several bytes, or before one, the bytes are counted instead. -/
def linePlace (document : List Char) (place : Nat) : Nat × Nat :=
  let last := byteLength document - 1
  let inside := min place last
  let before := uptoByte inside document
  let line := lastLineReversed before
  let beforeEnd :=
    match fromByte? (byteLength before) document with
    | some (c :: _) => inside + 1 == byteLength before + c.utf8Size
    | _ => false
  let column :=
    if beforeEnd then line.length else byteLength line + (inside - byteLength before)
  (before.count '\n', column + (place - inside))

/-- The given line of a document, the first one being line zero. -/
def documentLine : (line : Nat) → List Char → List Char
  | 0, text => text.takeWhile (· != '\n')
  | line + 1, text => documentLine line ((text.dropWhile (· != '\n')).drop 1)

/-- The error with an excerpt of the document: one line that says where it is, the line it is
    on, the range underlined, and the reason. -/
def SyntaxError.message (document : List Char) (error : SyntaxError) : List Char :=
  let (line, column) := linePlace document error.start
  let number := decimal (line + 1)
  let content := documentLine line document
  let margin := List.replicate (number.length + 1) ' ' ++ ['|']
  let more := min error.stop (error.start + byteLength content) - (error.start + 1)
  "TOML parse error at line ".toList ++ number ++ ", column ".toList ++ decimal (column + 1) ++
    ['\n'] ++ margin ++ ['\n'] ++ number ++ " | ".toList ++ content ++ ['\n'] ++ margin ++
    List.replicate (column + 1) ' ' ++ '^' :: List.replicate more '^' ++ ['\n'] ++
    error.fault.text ++ ['\n']

end TagNesting.Toml
