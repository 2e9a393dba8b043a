import TagNesting.Markup.Comment
import TagNesting.Span

/-!
# Tags

A tag is text of the shape `<name ...>` or `</name ...>`, with no thought for where it
stands: a type argument and the left side of a comparison can look like one. After the
name comes the end of the tag, or a blank and then anything up to the first `>`. Names
are runs of word characters and dots, so a fragment `<>` and a markup declaration `<!` are
no tags.

What kind of tag it is and which name it bears are read off its text by `Tag.ofText`,
which takes any text. A tag that ends in `/>` closes itself, even one that begins with
`</`. The name of a closing tag is the rest of it with every space and every `>` taken
out, wherever they stand; the name of any other tag is its first word.

## Main definitions

* `tagLength?`: The length of the tag a text begins with.
* `FoundTag`: The text of a tag and where it stands.
* `foundTags`: The tags of a text, left to right.
* `TagKind`: Opening, closing or closing itself.
* `Tag`: A tag with its kind, its name and its place in the source.
* `Tag.ofText`: The tag that a text spells.
* `StrippedLine.tags`: The tags of a line that has lost its comments.
-/

namespace TagNesting

/-- The length in characters of what may follow the name of a tag, up to and with the first
    `>`: nothing else, a slash, or a blank and any text. -/
def tagTailLength? : List Char → Option Nat
  | '>' :: _ => some 1
  | '/' :: '>' :: _ => some 2
  | c :: rest =>
      if isBlank c && rest.contains '>' then
        some ((rest.takeWhile (· != '>')).length + 2)
      else none
  | [] => none

/-- The length in characters of the tag that a text begins with, if it begins with one. The end
    is the first `>` there is, and a name never reaches past its last character, so a text
    begins with one tag at most. -/
def tagLength? : List Char → Option Nat
  | '<' :: rest =>
      let slash := if ['/'].isPrefixOf rest then 1 else 0
      let name := (rest.drop slash).takeWhile isNameChar
      if name.isEmpty then none
      else
        (tagTailLength? (rest.drop (slash + name.length))).map
          (1 + slash + name.length + ·)
  | _ => none

/-- The text of a tag and the byte at which it begins. -/
structure FoundTag where
  /-- The byte position of the tag's first character. -/
  start : Nat
  /-- The characters of the tag. -/
  text : List Char
  deriving DecidableEq, Repr

/-- The tags of a text that stands at byte `position`, its first `skip` characters being the
    rest of a tag. The search goes on behind each tag, so no two overlap. -/
def foundTagsFrom : (skip position : Nat) → List Char → List FoundTag
  | _, _, [] => []
  | skip + 1, position, c :: rest => foundTagsFrom skip (position + c.utf8Size) rest
  | 0, position, c :: rest =>
      match tagLength? (c :: rest) with
      | some length =>
          ⟨position, (c :: rest).take length⟩ ::
            foundTagsFrom (length - 1) (position + c.utf8Size) rest
      | none => foundTagsFrom 0 (position + c.utf8Size) rest

/-- The tags of a text, left to right. -/
def foundTags (text : List Char) : List FoundTag := foundTagsFrom 0 0 text

/-- What a tag does to the elements that are open. -/
inductive TagKind where
  /-- It opens an element. -/
  | opening
  /-- It closes one. -/
  | closing
  /-- It opens an element and closes it at once. -/
  | selfClosing
  deriving DecidableEq, Repr

/-- A tag in a source. -/
structure Tag where
  /-- The text of the tag, comments inside it left out. -/
  text : List Char
  /-- What the tag does. -/
  kind : TagKind
  /-- The name it bears. -/
  name : List Char
  /-- Its place in the source, comments inside it included. -/
  span : Span
  deriving DecidableEq, Repr

namespace Tag

/-- A tag's text begins like a closing tag's. -/
def beginsClosing (text : List Char) : Bool := ['<', '/'].isPrefixOf text

/-- The kind of a tag. Its end decides first, so `</div/>` closes itself. -/
def kindOf (text : List Char) : TagKind :=
  if ['/', '>'].isSuffixOf text then .selfClosing
  else if beginsClosing text then .closing
  else .opening

/-- The name of a closing tag: what follows the first two bytes, less every space and `>`, and
    less the blanks that are then at its ends. -/
def closingName (text : List Char) : List Char :=
  trimBy isBlank ((fromByte 2 text).filter fun c => c != '>' && c != ' ')

/-- The name of a tag that opens an element: the first word behind its first byte, less every
    `>` and slash. -/
def openingName (text : List Char) : List Char :=
  (((fromByte 1 text).dropWhile isBlank).takeWhile (!isBlank ·)).filter
    fun c => c != '>' && c != '/'

/-- The tag that a text spells, at the given place. -/
def ofText (text : List Char) (span : Span) : Tag where
  text := text
  kind := kindOf text
  name := if beginsClosing text then closingName text else openingName text
  span := span

end Tag

/-- The tags of a line, placed in a source in which the line begins at byte `offset`. -/
def StrippedLine.tags (line : StrippedLine) (offset : Nat) : List Tag :=
  (foundTags line.text).map fun found =>
    let bounds := line.range found.start (found.start + byteLength found.text)
    Tag.ofText found.text ((Span.ofBounds bounds.1 bounds.2).shift offset)

end TagNesting
