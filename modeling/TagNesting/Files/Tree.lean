import TagNesting.Files.Reading
import TagNesting.Text.Bytes

/-!
# Trees of Files

A directory with everything in it, and how a path leads through it. The tree is given as a
list of its files and directories, each by the names on the way to it; a directory that
something lies in need not be listed.

A path is walked name by name, and each name is looked up in a directory: an empty name and
`.` stay where they are, `..` goes up, but all three only from a directory. So `a/..` needs
`a` to be there, and `a.txt/` leads nowhere if `a.txt` is a file. What lies outside the
tree counts as a directory in which nothing is found.

## Main definitions

* `FileEntry`: A file or a directory in a tree.
* `FileTree`: A directory with everything in it.
* `pathNames`: The names on a path.
* `FileTree.step`, `FileTree.locate`: One name of a path, and all of them.
* `FileTree.read`: The bytes behind a path.
-/

namespace TagNesting

/-- A file, or a directory, in a tree. -/
structure FileEntry where
  /-- The names on the way to it. -/
  names : List (List Char)
  /-- What is in the file; nothing for a directory. -/
  content : Option (List UInt8)
  deriving DecidableEq, Repr

/-- A directory with everything in it. -/
abbrev FileTree : Type := List FileEntry

/-- The names on a path. There is an empty one before, between or behind slashes that have
    nothing else there. -/
def pathNames : List Char → List (List Char)
  | [] => [[]]
  | c :: rest =>
      if c = '/' then [] :: pathNames rest
      else
        match pathNames rest with
        | [] => [[c]]
        | name :: names => (c :: name) :: names

/-- Where a walk along a path has come to. -/
inductive FilePlace where
  /-- In the directory that the names lead to, the last one first. -/
  | directory (names : List (List Char))
  /-- At a file. -/
  | file (content : List UInt8)
  /-- In a directory above the tree. -/
  | outside
  deriving DecidableEq, Repr

/-- The longest name that a directory can hold, in bytes. -/
def maxNameLength : Nat := 255

/-- The longest path that can be walked, in bytes. -/
def maxPathLength : Nat := 4095

namespace FileTree

/-- What lies at the end of some names, the last one first, if anything does. -/
def place? (tree : FileTree) (names : List (List Char)) : Option FilePlace :=
  let path := names.reverse
  match List.find? (fun entry => entry.names == path) tree with
  | some entry =>
      match entry.content with
      | some content => some (.file content)
      | none => some (.directory names)
  | none =>
      if List.any tree fun entry => path.isPrefixOf entry.names then some (.directory names)
      else none

/-- One name of a path. -/
def step (tree : FileTree) (place : FilePlace) (name : List Char) :
    Except ReadFailure FilePlace :=
  match place with
  | .file _ => .error .notDirectory
  | .outside =>
      if name = [] || name = ['.'] || name = ['.', '.'] then .ok .outside
      else .error .notFound
  | .directory names =>
      if name = [] || name = ['.'] then .ok place
      else if name = ['.', '.'] then
        match names with
        | [] => .ok .outside
        | _ :: up => .ok (.directory up)
      else if maxNameLength < byteLength name then .error .nameTooLong
      else
        match tree.place? (name :: names) with
        | some found => .ok found
        | none => .error .notFound

/-- Where a path leads to. A path that begins with a slash does not begin in the tree. -/
def locate (tree : FileTree) (path : List Char) : Except ReadFailure FilePlace :=
  let start := if path.head? = some '/' then FilePlace.outside else .directory []
  (pathNames path).foldlM tree.step start

/-- The bytes behind a path. -/
def read (tree : FileTree) : FileReader := fun path =>
  if path.contains '\x00' then .error .nulInName
  else if path = [] then .error .notFound
  else if maxPathLength < byteLength path then .error .nameTooLong
  else do
    match ← tree.locate path with
    | .file content => .ok content
    | _ => .error .isDirectory

end FileTree

end TagNesting
