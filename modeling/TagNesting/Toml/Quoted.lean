import TagNesting.Text.Decimal
import TagNesting.Toml.Fault
import TagNesting.Toml.Token

/-!
# TOML Strings

The text that a TOML string stands for. In double quotes a backslash escapes, in single
quotes it is a character like others. Where a string may span lines, a line end right
behind the opening quotes is dropped, and a backslash at the end of a line takes all blanks
and line ends in that follow.

Inside these functions a place is the number of bytes left to the end of the string.

## Main definitions

* `TextStop`: A fault and the number of bytes that are left behind it.
* `takeEscape`: The character that an escape stands for.
* `unescape`: The text between double quotes.
* `plainly`: The text between single quotes.
* `Token.quotedText`: The text that a token with quotes stands for.
-/

namespace TagNesting.Toml

/-- A fault in a string and the number of bytes from there to the end of the string. -/
structure TextStop where
  /-- What is wrong. -/
  fault : Fault
  /-- The number of bytes that are left. -/
  left : Nat
  deriving DecidableEq, Repr

/-- Reading a string stops before the given rest. -/
def stopText {α : Type} (fault : Fault) (rest : List Char) : Except TextStop α :=
  .error ⟨fault, byteLength rest⟩

/-- The character may stand in a string as it is. -/
def isTextChar (c : Char) : Bool := c == '\t' || (0x20 ≤ c.toNat && c.toNat != 0x7F)

/-- The character given by so many hexadecimal digits, and what follows. -/
def takeHexChar (count : Nat) (cs : List Char) : Except TextStop (Char × List Char) :=
  let digits := cs.take count
  let value := numeralValue 16 digits
  if digits.length = count && digits.all isHexDigit && (value < 0xD800 || 0xDFFF < value) &&
      value ≤ 0x10FFFF then
    .ok (Char.ofNat value, cs.drop count)
  else stopText .badEscape cs

/-- The text begins with the end of a line. -/
def startsLineEnd : List Char → Bool
  | '\n' :: _ => true
  | '\r' :: '\n' :: _ => true
  | _ => false

/-- The text that an escape stands for, from behind the backslash on, and what follows. -/
def takeEscape (long : Bool) (cs : List Char) : Except TextStop (List Char × List Char) :=
  let one := fun (c : Char) (rest : List Char) =>
    (.ok ([c], rest) : Except TextStop (List Char × List Char))
  let coded := fun (count : Nat) (rest : List Char) =>
    (takeHexChar count rest).map fun (c, rest') => ([c], rest')
  match cs with
  | 'b' :: rest => one '\x08' rest
  | 't' :: rest => one '\t' rest
  | 'n' :: rest => one '\n' rest
  | 'f' :: rest => one '\x0c' rest
  | 'r' :: rest => one '\r' rest
  | 'e' :: rest => one '\x1b' rest
  | '"' :: rest => one '"' rest
  | '\\' :: rest => one '\\' rest
  | 'x' :: rest => coded 2 rest
  | 'u' :: rest => coded 4 rest
  | 'U' :: rest => coded 8 rest
  | _ =>
      if long && startsLineEnd (cs.dropWhile fun c => c == ' ' || c == '\t') then
        .ok ([], cs.dropWhile fun c => c == ' ' || c == '\t' || c == '\n' || c == '\r')
      else stopText .badEscape cs

/-- The text between double quotes. The fuel bounds the number of steps, each of which takes at
    least one character. -/
def unescape (long : Bool) : (fuel : Nat) → List Char → Except TextStop (List Char)
  | _, [] => .ok []
  | 0, cs => stopText .badEscape cs
  | fuel + 1, c :: rest =>
      if c = '\\' then do
        let (text, rest') ← takeEscape long rest
        let more ← unescape long fuel rest'
        .ok (text ++ more)
      else if isTextChar c || (long && startsLineEnd (c :: rest)) then do
        let more ← unescape long fuel rest
        .ok (c :: more)
      else stopText .textCharacter (c :: rest)

/-- The text between single quotes. -/
def plainly (long : Bool) : List Char → Except TextStop (List Char)
  | [] => .ok []
  | c :: rest =>
      if isTextChar c || (long && startsLineEnd (c :: rest)) then do
        let more ← plainly long rest
        .ok (c :: more)
      else stopText .textCharacter (c :: rest)

/-- What stands between the quotes, if the closing ones are there. -/
def betweenQuotes? (quotes : List Char) (text : List Char) : Option (List Char) :=
  let body := text.drop quotes.length
  if quotes.isSuffixOf body then some (body.take (body.length - quotes.length)) else none

/-- A text less the end of a line that it begins with. -/
def dropLineEnd : List Char → List Char
  | '\n' :: rest => rest
  | '\r' :: '\n' :: rest => rest
  | cs => cs

/-- The text that a token with quotes stands for. -/
def Token.quotedText (token : Token) : Except SyntaxError (List Char) :=
  let read := fun (quotes : List Char) (decode : List Char → Except TextStop (List Char)) =>
    match betweenQuotes? quotes token.text with
    | none => .error ⟨.unclosedText, token.stop, token.stop⟩
    | some body =>
        match decode body with
        | .ok text => .ok text
        | .error ⟨fault, left⟩ =>
            let place := token.stop - quotes.length - left
            .error ⟨fault, place, place + 1⟩
  match token.kind with
  | .basic => read ['"'] fun body => unescape false body.length body
  | .longBasic =>
      read ['"', '"', '"'] fun body => unescape true body.length (dropLineEnd body)
  | .literal => read ['\''] (plainly false)
  | _ => read ['\'', '\'', '\''] fun body => plainly true (dropLineEnd body)

end TagNesting.Toml
