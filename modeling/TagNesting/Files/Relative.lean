import TagNesting.Files.Tree

/-!
# Relative Paths

The way from one directory to a file, both given by whole paths: up as far as the two paths
differ, and down from there.

## Main definitions

* `stepsBetween`: The names on the way.
* `relativePath`: The way as a path.
-/

namespace TagNesting

/-- The names on the way from the directory at the end of some names to what is at the end of
    others. -/
def stepsBetween : (base target : List (List Char)) → List (List Char)
  | [], target => target
  | base, [] => base.map fun _ => ['.', '.']
  | b :: base, t :: target =>
      if b = t then stepsBetween base target
      else (b :: base).map (fun _ => ['.', '.']) ++ t :: target

/-- The names on a path, without those that stay where they are. -/
def properNames (path : List Char) : List (List Char) :=
  (pathNames path).filter fun name => name != [] && name != ['.']

/-- The way from a directory to a file. -/
def relativePath (base target : List Char) : List Char :=
  ['/'].intercalate (stepsBetween (properNames base) (properNames target))

end TagNesting
