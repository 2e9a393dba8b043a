import TagNesting.Text.Decimal
import TagNesting.Toml.Fault
import TagNesting.Toml.Token

/-!
# TOML Syntax

The statements of a TOML document, keys and values still as they are written. Reading them
settles where each one begins and ends and what is nested in what. Whether a key or a
value is well formed is not asked yet: where one is missing, an empty one takes its place,
which no reading of its text will accept.

So a document has two chances to fail, and what fails here comes first, wherever in the
document it stands.

Inline tables may span lines, hold comments, and end with a comma, as arrays may.

## Main definitions

* `RawValue`: A value as it is written.
* `Statement`: An assignment or the header of a table.
* `takePath`: The keys of a dotted key.
* `readValue`, `readItems`, `readFields`: A value and what is nested in it.
* `readStatements`: The statements of a document.
-/

namespace TagNesting.Toml

/-- A value as it is written, with its place. -/
inductive RawValue where
  /-- A string, or whatever stands without quotes. -/
  | scalar (token : Token)
  /-- An array. -/
  | array (items : List RawValue) (start stop : Nat)
  /-- An inline table. Each value has the keys that lead to it. -/
  | table (fields : List (List Token × RawValue)) (start stop : Nat)
  deriving Repr

/-- The place where a value begins. -/
def RawValue.start : RawValue → Nat
  | scalar token => token.start
  | array _ start _ => start
  | table _ start _ => start

/-- The place behind a value. -/
def RawValue.stop : RawValue → Nat
  | scalar token => token.stop
  | array _ _ stop => stop
  | table _ _ stop => stop

/-- One statement of a document. -/
inductive Statement where
  /-- A value and the keys that lead to it. -/
  | assign (path : List Token) (value : RawValue)
  /-- What follows is about one table. -/
  | table (path : List Token)
  /-- What follows is about a new table at the end of an array. -/
  | tables (path : List Token)
  deriving Repr

/-- The stand-in for a key or a value that is missing before a token. -/
def missingBefore (token : Token) : Token := ⟨.word, [], token.start⟩

/-- Reading stops at a range of bytes. -/
def failAt {α : Type} (fault : Fault) (start stop : Nat) : Except SyntaxError α :=
  .error ⟨fault, start, stop⟩

/-- The token can be a key: a string, or a word. -/
def isKeyToken (token : Token) : Bool :=
  token.kind == .word || token.kind == .basic || token.kind == .literal ||
    token.kind == .longBasic || token.kind == .longLiteral

/-- The character may stand in a comment. -/
def isCommentChar (c : Char) : Bool := c == '\t' || (0x20 ≤ c.toNat && c.toNat != 0x7F)

/-- The ends of lines and the comments that a reader passes over are in order. -/
def checkTrivia (token : Token) : Except SyntaxError Unit :=
  match token.kind with
  | .newline => if token.text = ['\r'] then failAt .bareReturn token.stop token.stop else .ok ()
  | .comment =>
      let sound := token.text.takeWhile isCommentChar
      if sound.length = token.text.length then .ok ()
      else
        let place := token.start + byteLength sound
        failAt .commentCharacter place (place + 1)
  | _ => .ok ()

/-! ## Keys -/

/-- The keys of a dotted key and what follows. A dot calls for a key, and where none comes an
    empty one is taken. -/
def takePath : (expecting : Bool) → List Token → List Token × List Token
  | _, [] => ([], [])
  | expecting, token :: rest =>
      if token.kind = .space then takePath expecting rest
      else if token.kind = .dot then
        let (path, rest') := takePath true rest
        (if expecting then missingBefore token :: path else path, rest')
      else if expecting then
        if isKeyToken token then
          let (path, rest') := takePath false rest
          (token :: path, rest')
        else ([missingBefore token], token :: rest)
      else ([], token :: rest)

/-- The tokens from the first one on that is no blank. -/
def skipSpace : List Token → List Token
  | [] => []
  | token :: rest => if token.kind = .space then skipSpace rest else token :: rest

/-- The tokens behind the equals sign that has to come next. -/
def takeEquals : List Token → Except SyntaxError (List Token)
  | [] => failAt .missingEquals 0 0
  | token :: rest =>
      if token.kind = .equals then .ok (skipSpace rest)
      else failAt .missingEquals token.start token.start

/-! ## Values -/

/-- The text of the words and dots that come next, and what follows. -/
def takeWords : List Token → List Char × List Token
  | [] => ([], [])
  | token :: rest =>
      if token.kind = .word || token.kind = .dot then
        let (text, rest') := takeWords rest
        (token.text ++ text, rest')
      else ([], token :: rest)

/-- The text has the form of a date. -/
def looksLikeDate (text : List Char) : Bool :=
  match text with
  | [a, b, c, d, '-', e, f, '-', g, h] => [a, b, c, d, e, f, g, h].all isDigit
  | _ => false

/-- The text begins like a time of day. -/
def looksLikeTime (text : List Char) : Bool :=
  match text with
  | a :: b :: ':' :: _ => isDigit a && isDigit b
  | _ => false

/-- A value without quotes. It is made of words and dots, and one blank may stand between a
    date and a time. -/
def takeUnquoted (first : Token) (rest : List Token) : Token × List Token :=
  let (text, behind) := takeWords (first :: rest)
  match behind with
  | blank :: next :: _ =>
      if looksLikeDate text && blank.text == [' '] && looksLikeTime next.text then
        let (more, behind') := takeWords (behind.drop 1)
        (⟨.word, text ++ ' ' :: more, first.start⟩, behind')
      else (⟨.word, text, first.start⟩, behind)
  | _ => (⟨.word, text, first.start⟩, behind)

mutual

/-- A value. Arrays and inline tables may be nested `room` deep in it. The fuel bounds the
    number of steps: two of them take at least one token. -/
def readValue : (fuel room : Nat) → List Token → Except SyntaxError (RawValue × List Token)
  | 0, _, _ => failAt .tooDeep 0 0
  | _ + 1, _, [] => failAt .unquotedText 0 0
  | fuel + 1, room, token :: rest =>
      match token.kind with
      | .basic | .longBasic | .literal | .longLiteral => .ok (.scalar token, rest)
      | .word | .dot =>
          let (value, rest') := takeUnquoted token rest
          .ok (.scalar value, rest')
      | .equals => failAt .extraEquals token.start token.stop
      | .closeBracket => failAt .unopenedArray token.start token.start
      | .closeBrace => failAt .unopenedInline token.start token.start
      | .openBracket =>
          if room = 0 then failAt .tooDeep token.start token.stop
          else do
            let (items, stop, rest') ← readItems fuel (room - 1) false token.stop rest
            .ok (.array items token.start stop, rest')
      | .openBrace =>
          if room = 0 then failAt .tooDeep token.start token.stop
          else do
            let (fields, stop, rest') ← readFields fuel (room - 1) false token.stop rest
            .ok (.table fields token.start stop, rest')
      | _ => .ok (.scalar (missingBefore token), token :: rest)
  termination_by structural fuel => fuel

/-- The items of an array that are left, the place behind its end, and what follows. The place
    behind what was read last is given, for an array that has no end. -/
def readItems : (fuel room : Nat) → (needsComma : Bool) → (behind : Nat) → List Token →
    Except SyntaxError (List RawValue × Nat × List Token)
  | 0, _, _, _, _ => failAt .tooDeep 0 0
  | _ + 1, _, _, behind, [] => failAt .unclosedArray behind behind
  | fuel + 1, room, needsComma, behind, token :: rest =>
      match token.kind with
      | .space => readItems fuel room needsComma behind rest
      | .newline | .comment => do
          checkTrivia token
          readItems fuel room needsComma behind rest
      | .finish => failAt .unclosedArray behind behind
      | .closeBracket => .ok ([], token.stop, rest)
      | .comma =>
          if needsComma then readItems fuel room false token.stop rest
          else failAt .extraComma token.start token.stop
      | _ =>
          if needsComma then failAt .missingComma token.start token.start
          else do
            let (item, rest') ← readValue fuel room (token :: rest)
            let (items, stop, rest'') ← readItems fuel room true item.stop rest'
            .ok (item :: items, stop, rest'')
  termination_by structural fuel => fuel

/-- The fields of an inline table that are left, the place behind its end, and what
    follows. -/
def readFields : (fuel room : Nat) → (needsComma : Bool) → (behind : Nat) → List Token →
    Except SyntaxError (List (List Token × RawValue) × Nat × List Token)
  | 0, _, _, _, _ => failAt .tooDeep 0 0
  | _ + 1, _, _, behind, [] => failAt .unclosedInline behind behind
  | fuel + 1, room, needsComma, behind, token :: rest =>
      match token.kind with
      | .space => readFields fuel room needsComma behind rest
      | .newline | .comment => do
          checkTrivia token
          readFields fuel room needsComma behind rest
      | .finish => failAt .unclosedInline behind behind
      | .closeBrace => .ok ([], token.stop, rest)
      | .comma =>
          if needsComma then readFields fuel room false token.stop rest
          else failAt .extraComma token.start token.stop
      | .openBracket | .closeBracket | .openBrace => failAt .missingKey token.start token.start
      | _ =>
          if needsComma then failAt .missingComma token.start token.start
          else do
            let (path, behindKey) := takePath true (token :: rest)
            let (value, rest') ← readValue fuel room (← takeEquals behindKey)
            let (fields, stop, rest'') ← readFields fuel room true value.stop rest'
            .ok ((path, value) :: fields, stop, rest'')
  termination_by structural fuel => fuel

end

/-! ## Statements -/

/-- The tokens of the next line. Nothing but blanks and a comment may be left of this one. -/
def finishLine : List Token → Except SyntaxError (List Token)
  | [] => .ok []
  | token :: rest =>
      match token.kind with
      | .space => finishLine rest
      | .comment => do
          checkTrivia token
          finishLine rest
      | .newline => do
          checkTrivia token
          .ok rest
      | .finish => .ok (token :: rest)
      | _ => failAt .trailingText token.start token.start

/-- The tokens of the next line, whatever is left of this one. -/
def skipLine : List Token → Except SyntaxError (List Token)
  | [] => .ok []
  | token :: rest => do
      checkTrivia token
      if token.kind = .newline then .ok rest
      else if token.kind = .finish then .ok (token :: rest)
      else skipLine rest

/-- The closing bracket of a header, and the tokens of the next line. A header that is not
    closed is only let pass if its last key is missing, which is the greater fault. -/
def finishHeader (double : Bool) (path rest : List Token) :
    Except SyntaxError (List Token) :=
  let unclosed := if double then Fault.unclosedTables else Fault.unclosedTable
  let keysEnd := (path.getLast?.map Token.stop).getD 0
  let keysComplete := path.getLast?.any fun key => !key.text.isEmpty
  match rest with
  | first :: rest' =>
      if first.kind = .closeBracket then
        if double then
          match rest' with
          | second :: rest'' =>
              if second.kind = .closeBracket then finishLine rest''
              else failAt unclosed first.stop first.stop
          | [] => failAt unclosed first.stop first.stop
        else finishLine rest'
      else if keysComplete then failAt unclosed keysEnd keysEnd
      else skipLine rest
  | [] => failAt unclosed keysEnd keysEnd

/-- The header of a table behind its opening bracket, and the tokens of the next line. -/
def readHeader (rest : List Token) : Except SyntaxError (Statement × List Token) :=
  match rest with
  | second :: behind =>
      if second.kind = .openBracket then do
        let (path, rest') := takePath true behind
        let rest'' ← finishHeader true path rest'
        .ok (.tables path, rest'')
      else do
        let (path, rest') := takePath true rest
        let rest'' ← finishHeader false path rest'
        .ok (.table path, rest'')
  | [] => failAt .unclosedTable 0 0

/-- How deep arrays and inline tables may nest. -/
def maxNesting : Nat := 79

/-- An assignment and the tokens of the next line. -/
def readAssignment (tokens : List Token) : Except SyntaxError (Statement × List Token) := do
  let (path, behindKey) := takePath true tokens
  let behind ← takeEquals behindKey
  let (value, rest) ← readValue (2 * behind.length + 2) maxNesting behind
  let rest' ← finishLine rest
  .ok (.assign path value, rest')

/-- The statements that tokens make up. The fuel bounds the number of steps, each of which
    takes at least one token. -/
def readStatements : (fuel : Nat) → List Token → Except SyntaxError (List Statement)
  | 0, _ => .ok []
  | _ + 1, [] => .ok []
  | fuel + 1, token :: rest =>
      match token.kind with
      | .space => readStatements fuel rest
      | .newline | .comment => do
          checkTrivia token
          readStatements fuel rest
      | .finish => .ok []
      | .closeBracket => failAt .unopenedTable token.start token.start
      | .comma | .openBrace | .closeBrace => failAt .missingKey token.start token.start
      | .openBracket => do
          let (statement, rest') ← readHeader rest
          let statements ← readStatements fuel rest'
          .ok (statement :: statements)
      | _ => do
          let (statement, rest') ← readAssignment (token :: rest)
          let statements ← readStatements fuel rest'
          .ok (statement :: statements)

/-- The statements of a document. -/
def statementsOf (document : List Char) : Except SyntaxError (List Statement) :=
  let tokens := tokensOf document
  readStatements tokens.length tokens

end TagNesting.Toml
