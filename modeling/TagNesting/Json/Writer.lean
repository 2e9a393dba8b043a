import TagNesting.Json.Value

/-!
# Writing JSON

A JSON value as text that people can read: one item a line, two spaces deeper than what
holds it. An array or an object with nothing in it stays on one line. In a string only
what must be escaped is: the quote, the backslash and the control characters below U+0020.

## Main definitions

* `escapedChar`: A character as it stands in a string.
* `quotedText`: A string with its quotes.
* `Json.indented`: A value as indented text.
-/

namespace TagNesting

/-- The lower-case hexadecimal digit of a number below sixteen. -/
def hexDigit (n : Nat) : Char :=
  if n < 10 then Char.ofNat (48 + n) else Char.ofNat (87 + n)

/-- A character as it stands in a string. Control characters without a short escape are written
    as four hexadecimal digits, of which the first two are always zero. -/
def escapedChar (c : Char) : List Char :=
  if c = '"' then ['\\', '"']
  else if c = '\\' then ['\\', '\\']
  else if c = '\x08' then ['\\', 'b']
  else if c = '\t' then ['\\', 't']
  else if c = '\n' then ['\\', 'n']
  else if c = '\x0c' then ['\\', 'f']
  else if c = '\r' then ['\\', 'r']
  else if c.toNat < 0x20 then
    ['\\', 'u', '0', '0', hexDigit (c.toNat / 16), hexDigit (c.toNat % 16)]
  else [c]

/-- A string with its quotes. -/
def quotedText (text : List Char) : List Char :=
  '"' :: text.flatMap escapedChar ++ ['"']

/-- A line end and the spaces at the start of the next line. -/
def newLine (depth : Nat) : List Char := '\n' :: List.replicate (2 * depth) ' '

namespace JsonNumber

/-- A number as text. -/
def toText : JsonNumber → List Char
  | .natural n => decimal n
  | .negative n => '-' :: decimal n
  | .float x => x.pointText

end JsonNumber

namespace Json

mutual

/-- A value as indented text, as it stands `depth` levels deep. -/
def indented (depth : Nat) : Json → List Char
  | .null => ['n', 'u', 'l', 'l']
  | .bool true => ['t', 'r', 'u', 'e']
  | .bool false => ['f', 'a', 'l', 's', 'e']
  | .number value => value.toText
  | .text value => quotedText value
  | .array [] => ['[', ']']
  | .array (item :: items) =>
      '[' :: newLine (depth + 1) ++ indented (depth + 1) item ++
        indentedItems (depth + 1) items ++ newLine depth ++ [']']
  | .object [] => ['{', '}']
  | .object ((name, value) :: fields) =>
      '{' :: newLine (depth + 1) ++ quotedText name ++ [':', ' '] ++
        indented (depth + 1) value ++ indentedFields (depth + 1) fields ++
        newLine depth ++ ['}']

/-- The items of an array behind its first, each behind a comma on a line of its own. -/
def indentedItems (depth : Nat) : List Json → List Char
  | [] => []
  | item :: items =>
      ',' :: newLine depth ++ indented depth item ++ indentedItems depth items

/-- The fields of an object behind its first, each behind a comma on a line of its own. -/
def indentedFields (depth : Nat) : List (List Char × Json) → List Char
  | [] => []
  | (name, value) :: fields =>
      ',' :: newLine depth ++ quotedText name ++ [':', ' '] ++ indented depth value ++
        indentedFields depth fields

end

end Json

end TagNesting
