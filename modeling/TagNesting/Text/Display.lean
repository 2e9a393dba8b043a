import TagNesting.Text.Ranges
import TagNesting.Text.WidthTable

/-!
# Text on a Terminal

How text of any kind is shown in rows and columns. What would move the cursor or reorder
the line is replaced by something that stands still: a tab by four spaces, a control
character by its picture, a character that changes the direction of writing by U+FFFD. The
joiner of emoji is left out, so that what it joins is counted one by one.

A column is as wide as one Latin letter. A character takes one column unless the tables of
the Unicode Character Database say otherwise, and a replaced one takes as many as what
replaces it.

## Main definitions

* `shownChar`: What is shown for a character.
* `shownText`: What is shown for a text.
* `columnsOf`: The number of columns of a character.
* `columnCount`: The number of columns of a text.
-/

namespace TagNesting

/-- The character changes the direction of the writing around it. -/
def isDirectionControl (c : Char) : Bool :=
  (0x202A ≤ c.toNat && c.toNat ≤ 0x202E) || (0x2066 ≤ c.toNat && c.toNat ≤ 0x2069)

/-- What is shown for a character. -/
def shownChar (c : Char) : List Char :=
  if c = '\t' then [' ', ' ', ' ', ' ']
  else if c = '\n' then [c]
  else if c.toNat < 0x20 then [Char.ofNat (0x2400 + c.toNat)]
  else if c.toNat = 0x7F then ['\u2421']
  else if c.toNat = 0x200D then []
  else if isDirectionControl c then ['\uFFFD']
  else [c]

/-- What is shown for a text. -/
def shownText (cs : List Char) : List Char := cs.flatMap shownChar

/-- The number of columns of a character. ASCII is decided without the tables. -/
def columnsOf (c : Char) : Nat :=
  if c = '\t' then 4
  else if c.toNat < 0x80 || isDirectionControl c then 1
  else if inRanges zeroWidthRanges c.toNat then 0
  else if inRanges wideRanges c.toNat then 2
  else 1

/-- The number of columns of a text. -/
def columnCount : List Char → Nat
  | [] => 0
  | c :: rest => columnsOf c + columnCount rest

end TagNesting
