import TagNesting.Text.Bytes

/-!
# TOML Tokens

A TOML document cut into tokens. Cutting never fails and loses nothing: the texts of the
tokens, put together again, are the document. What a token means, or that it means
nothing, shows later.

A string that is not closed ends with its line, or with the document if it is one that may
span lines. A closing row of three quotes takes up to two more quotes in, which then belong
to the string.

## Main definitions

* `TokenKind`, `Token`: A token with its text and its place.
* `splitBasic`, `splitLongBasic`, `splitLiteral`, `splitLongLiteral`: The four sorts of
  strings cut off from what follows.
* `splitToken`: The first token of a text.
* `tokensOf`: The tokens of a text, an empty one at its end.
-/

namespace TagNesting.Toml

/-- The sorts of tokens. -/
inductive TokenKind where
  /-- A full stop. -/
  | dot
  /-- An equals sign. -/
  | equals
  /-- A comma. -/
  | comma
  /-- An opening square bracket. -/
  | openBracket
  /-- A closing square bracket. -/
  | closeBracket
  /-- An opening curly bracket. -/
  | openBrace
  /-- A closing curly bracket. -/
  | closeBrace
  /-- Blanks and tabs. -/
  | space
  /-- The end of a line. -/
  | newline
  /-- A comment. -/
  | comment
  /-- A string in double quotes. -/
  | basic
  /-- A string in three double quotes. -/
  | longBasic
  /-- A string in single quotes. -/
  | literal
  /-- A string in three single quotes. -/
  | longLiteral
  /-- Anything else up to the next sign or blank. -/
  | word
  /-- The end of the document. -/
  | finish
  deriving DecidableEq, Repr

/-- A token with its text and its place in the document, in bytes. -/
structure Token where
  /-- The sort of the token. -/
  kind : TokenKind
  /-- The text of the token. -/
  text : List Char
  /-- The place where it begins. -/
  start : Nat
  deriving DecidableEq, Repr

/-- The place behind a token. -/
def Token.stop (token : Token) : Nat := token.start + byteLength token.text

/-- The character ends a word. -/
def endsWord (c : Char) : Bool :=
  c == '.' || c == '=' || c == ',' || c == '[' || c == ']' || c == '{' || c == '}' ||
    c == ' ' || c == '\t' || c == '#' || c == '\r' || c == '\n'

/-- Up to `count` quotes cut off from what follows. -/
def splitQuotes (quote : Char) : (count : Nat) → List Char → List Char × List Char
  | 0, cs => ([], cs)
  | _ + 1, [] => ([], [])
  | count + 1, c :: rest =>
      if c = quote then
        let (quotes, rest') := splitQuotes quote count rest
        (c :: quotes, rest')
      else ([], c :: rest)

/-- A string in single quotes cut off behind its opening quote. -/
def splitLiteral : List Char → List Char × List Char
  | [] => ([], [])
  | c :: rest =>
      if c = '\n' then ([], c :: rest)
      else if c = '\'' then ([c], rest)
      else
        let (body, rest') := splitLiteral rest
        (c :: body, rest')

/-- A string in three single quotes cut off behind its opening quotes. -/
def splitLongLiteral : List Char → List Char × List Char
  | [] => ([], [])
  | '\'' :: '\'' :: '\'' :: rest =>
      let (more, rest') := splitQuotes '\'' 2 rest
      ('\'' :: '\'' :: '\'' :: more, rest')
  | c :: rest =>
      let (body, rest') := splitLongLiteral rest
      (c :: body, rest')

/-- A string in double quotes cut off behind its opening quote. -/
def splitBasic : List Char → List Char × List Char
  | [] => ([], [])
  | '\\' :: '\\' :: rest =>
      let (body, rest') := splitBasic rest
      ('\\' :: '\\' :: body, rest')
  | '\\' :: '"' :: rest =>
      let (body, rest') := splitBasic rest
      ('\\' :: '"' :: body, rest')
  | c :: rest =>
      if c = '\n' then ([], c :: rest)
      else if c = '"' then ([c], rest)
      else
        let (body, rest') := splitBasic rest
        (c :: body, rest')

/-- A string in three double quotes cut off behind its opening quotes. -/
def splitLongBasic : List Char → List Char × List Char
  | [] => ([], [])
  | '\\' :: '\\' :: rest =>
      let (body, rest') := splitLongBasic rest
      ('\\' :: '\\' :: body, rest')
  | '\\' :: '"' :: rest =>
      let (body, rest') := splitLongBasic rest
      ('\\' :: '"' :: body, rest')
  | '"' :: '"' :: '"' :: rest =>
      let (more, rest') := splitQuotes '"' 2 rest
      ('"' :: '"' :: '"' :: more, rest')
  | c :: rest =>
      let (body, rest') := splitLongBasic rest
      (c :: body, rest')

/-- A run of characters cut off behind its first one. -/
def splitRun (kind : TokenKind) (belongs : Char → Bool) (first : Char) (rest : List Char) :
    TokenKind × List Char × List Char :=
  (kind, first :: rest.takeWhile belongs, rest.dropWhile belongs)

/-- The first token of a text, which begins with the given character: its sort, its text, and
    what follows. -/
def splitToken (first : Char) (rest : List Char) : TokenKind × List Char × List Char :=
  match first with
  | '.' => (.dot, ['.'], rest)
  | '=' => (.equals, ['='], rest)
  | ',' => (.comma, [','], rest)
  | '[' => (.openBracket, ['['], rest)
  | ']' => (.closeBracket, [']'], rest)
  | '{' => (.openBrace, ['{'], rest)
  | '}' => (.closeBrace, ['}'], rest)
  | ' ' => splitRun .space (fun c => c == ' ' || c == '\t') first rest
  | '\t' => splitRun .space (fun c => c == ' ' || c == '\t') first rest
  | '#' => splitRun .comment (fun c => c != '\r' && c != '\n') first rest
  | '\n' => (.newline, ['\n'], rest)
  | '\r' =>
      match rest with
      | '\n' :: rest' => (.newline, ['\r', '\n'], rest')
      | _ => (.newline, ['\r'], rest)
  | '\'' =>
      match rest with
      | '\'' :: '\'' :: rest' =>
          let (body, rest'') := splitLongLiteral rest'
          (.longLiteral, '\'' :: '\'' :: '\'' :: body, rest'')
      | _ =>
          let (body, rest') := splitLiteral rest
          (.literal, '\'' :: body, rest')
  | '"' =>
      match rest with
      | '"' :: '"' :: rest' =>
          let (body, rest'') := splitLongBasic rest'
          (.longBasic, '"' :: '"' :: '"' :: body, rest'')
      | _ =>
          let (body, rest') := splitBasic rest
          (.basic, '"' :: body, rest')
  | _ => splitRun .word (fun c => !endsWord c) first rest

/-- The tokens of a text that begins at the given place. The fuel bounds their number, and a
    text has no more of them than characters. -/
def tokensFrom : (fuel start : Nat) → List Char → List Token
  | _, start, [] => [⟨.finish, [], start⟩]
  | 0, start, _ :: _ => [⟨.finish, [], start⟩]
  | fuel + 1, start, c :: rest =>
      let (kind, text, rest') := splitToken c rest
      let token : Token := ⟨kind, text, start⟩
      token :: tokensFrom fuel token.stop rest'

/-- The tokens of a document. A byte order mark at its beginning is no part of any. -/
def tokensOf (document : List Char) : List Token :=
  match document with
  | '\uFEFF' :: rest => tokensFrom rest.length 3 rest
  | _ => tokensFrom document.length 0 document

end TagNesting.Toml
