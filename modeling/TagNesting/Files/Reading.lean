import TagNesting.Text.Utf8

/-!
# Reading Files

What reading a file can come to. The rest of the library knows files as a function from a
path to bytes or to the reason why there are none, and so it works alike on a directory in
memory and on one that has been read from a disk.

A source has to be UTF-8 throughout; `FileReader.text` reads one and counts bytes that are
none as one more reason to fail.

## Main definitions

* `ReadFailure`: Why a file could not be read.
* `ReadFailure.message`: The reason in words.
* `ReadFailure.isOfFile`: There is a file all the same.
* `FileReader`: The bytes behind each path.
* `FileReader.text`: The text behind a path.
* `SourceError`: A source that could not be read.
* `readSource`: The source behind a path.
-/

namespace TagNesting

/-- Why a file could not be read. -/
inductive ReadFailure where
  /-- There is nothing by that name. -/
  | notFound
  /-- The path leads to a directory. -/
  | isDirectory
  /-- The path goes on behind something that is no directory. -/
  | notDirectory
  /-- A name on the path, or the path, is too long. -/
  | nameTooLong
  /-- The path holds a NUL. -/
  | nulInName
  /-- The bytes are not UTF-8. -/
  | notText
  /-- Any other reason, in words, such as that the file may not be read. -/
  | other (reason : List Char)
  deriving DecidableEq, Repr

/-- The reason in words. -/
def ReadFailure.message : ReadFailure → List Char
  | notFound => "No such file or directory (os error 2)".toList
  | isDirectory => "Is a directory (os error 21)".toList
  | notDirectory => "Not a directory (os error 20)".toList
  | nameTooLong => "File name too long (os error 36)".toList
  | nulInName => "file name contained an unexpected NUL byte".toList
  | notText => "stream did not contain valid UTF-8".toList
  | other reason => reason

/-- There is a file at the path for all that. A reason that has no name of its own is taken to be
    one of the file, not of the way to it. -/
def ReadFailure.isOfFile : ReadFailure → Bool
  | notText => true
  | other _ => true
  | _ => false

/-- The bytes behind each path, or the reason why there are none. -/
abbrev FileReader : Type := List Char → Except ReadFailure (List UInt8)

/-- The text that bytes spell, if they are UTF-8 throughout. -/
def textOfBytes (bytes : List UInt8) : Except ReadFailure (List Char) :=
  match decodeUtf8? bytes with
  | some text => .ok text
  | none => .error .notText

/-- The text behind a path. -/
def FileReader.text (files : FileReader) (path : List Char) : Except ReadFailure (List Char) :=
  files path >>= textOfBytes

/-- A source that could not be read. -/
structure SourceError where
  /-- The path of the source. -/
  path : List Char
  /-- Why it could not be read. -/
  failure : ReadFailure
  deriving DecidableEq, Repr

/-- Which source could not be read. The reason is kept apart. -/
def SourceError.message (error : SourceError) : List Char :=
  "failed to read ".toList ++ error.path

/-- The source behind a path. -/
def readSource (files : FileReader) (path : List Char) : Except SourceError (List Char) :=
  (files.text path).mapError (SourceError.mk path)

end TagNesting
