import TagNesting.Text.LetterTable
import TagNesting.Text.Ranges

/-!
# Character Classes

The classes the scanner reads text by. Two kinds of white space are kept apart because
two rules of the program differ in them: the gaps inside tags and comments are *blank*,
which takes in the information separators U+001C to U+001F, while a name taken from the
command line or the configuration is trimmed of *white space* only, as Unicode defines it.

A name is made of letters, numbers of any kind (so `²` counts), the underscore and the
dot. The dot is what lets `Foo.Bar` be one name.

## Main definitions

* `isWhiteSpace`: The Unicode property `White_Space`.
* `isBlank`: White space or an information separator.
* `isWordChar`: A letter, a number or the underscore.
* `isNameChar`: A word character or the dot.
* `trimEndBy`, `trimBy`: Text less the characters of a class at its end, or at both ends.
-/

namespace TagNesting

/-- The Unicode property `White_Space`. -/
def isWhiteSpace (c : Char) : Bool :=
  let n := c.toNat
  (0x9 ≤ n && n ≤ 0xD) || n == 0x20 || n == 0x85 || n == 0xA0 || n == 0x1680 ||
    (0x2000 ≤ n && n ≤ 0x200A) || n == 0x2028 || n == 0x2029 || n == 0x202F || n == 0x205F ||
    n == 0x3000

/-- White space, or one of the information separators U+001C to U+001F. -/
def isBlank (c : Char) : Bool :=
  isWhiteSpace c || (0x1C ≤ c.toNat && c.toNat ≤ 0x1F)

/-- A letter, a number of any kind, or the underscore. ASCII is decided directly, so that the
    table is searched for other characters only. -/
def isWordChar (c : Char) : Bool :=
  if c.toNat < 0x80 then c.isAlphanum || c == '_'
  else inRanges letterOrNumberRanges c.toNat

/-- A character that a tag name may hold. -/
def isNameChar (c : Char) : Bool :=
  isWordChar c || c == '.'

/-- The text less the longest run of such characters at its end. -/
def trimEndBy (p : Char → Bool) (cs : List Char) : List Char :=
  (cs.reverse.dropWhile p).reverse

/-- The text less the longest runs of such characters at its two ends. -/
def trimBy (p : Char → Bool) (cs : List Char) : List Char :=
  trimEndBy p (cs.dropWhile p)

end TagNesting
