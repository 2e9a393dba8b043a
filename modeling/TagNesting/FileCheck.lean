import TagNesting.Files.Reading
import TagNesting.Nesting

/-!
# Checking Files

The check of a file with the usual void elements, apart from all settings: what it finds,
and the same as messages. Either fails exactly if the file cannot be read.

## Main definitions

* `checkFile`: What a check of a file finds.
* `fileMessages`: The messages of what it finds.
-/

namespace TagNesting

/-- What a check of a file finds. -/
def checkFile (files : FileReader) (path : List Char) : Except SourceError (List Finding) :=
  (readSource files path).map (findings defaultVoidElements)

/-- The messages of what a check of a file finds. -/
def fileMessages (files : FileReader) (path : List Char) :
    Except SourceError (List (List Char)) :=
  (checkFile files path).map (List.map Finding.message)

end TagNesting
