import TagNesting.Text.Decimal
import TagNesting.Text.PlainTable
import TagNesting.Text.Ranges

/-!
# Text as a Literal

Text between double quotes as it is shown where it has to be told apart from what is around
it. Quotes and backslashes are escaped, and so is every character that would not be seen,
or only as part of the character before it.

## Main definitions

* `isPlainChar`: The character is shown as it is.
* `literalChar`: What a character is shown as.
* `literalText`: A text between double quotes.
-/

namespace TagNesting

/-- The character is shown as it is. ASCII is decided without the table. -/
def isPlainChar (c : Char) : Bool :=
  if c.toNat < 0x80 then 0x20 ≤ c.toNat && c.toNat != 0x7F
  else inRanges plainRanges c.toNat

/-- What a character is shown as. -/
def literalChar (c : Char) : List Char :=
  if c = '"' then ['\\', '"']
  else if c = '\\' then ['\\', '\\']
  else if c = '\n' then ['\\', 'n']
  else if c = '\r' then ['\\', 'r']
  else if c = '\t' then ['\\', 't']
  else if c = '\x00' then ['\\', '0']
  else if isPlainChar c then [c]
  else ['\\', 'u', '{'] ++ Nat.toDigits 16 c.toNat ++ ['}']

/-- A text between double quotes. -/
def literalText (cs : List Char) : List Char := '"' :: cs.flatMap literalChar ++ ['"']

end TagNesting
