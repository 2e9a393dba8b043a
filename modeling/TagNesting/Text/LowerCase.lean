import TagNesting.Text.CapitalTable
import TagNesting.Text.CaseTable
import TagNesting.Text.Ranges

/-!
# Lower Case

Text in lower case. One capital letter, the dotted `İ`, has two characters for its
counterpart; every other one has one. Which one it is depends on the letter alone, but for
sigma, which has a form of its own at the end of a word.

## Main definitions

* `lowerChar`: A character in lower case.
* `adjoinsLetter`: A letter is next in a text.
* `lowerText`: A text in lower case.
-/

namespace TagNesting

/-- The distance from a code point to its lower-case counterpart, if a run of the table holds
    it. The table is increasing. -/
def distanceToLower : List (Nat × Nat × Nat × Int) → Nat → Option Int
  | [], _ => none
  | (first, last, step, distance) :: rest, n =>
      if n < first then none
      else if n ≤ last then if (n - first) % step = 0 then some distance else none
      else distanceToLower rest n

/-- A character in lower case. -/
def lowerChar (c : Char) : List Char :=
  if c.toNat < 0x80 then [c.toLower]
  else if c = '\u0130' then ['i', '\u0307']
  else
    match distanceToLower capitalRuns c.toNat with
    | some distance => [Char.ofNat ((c.toNat : Int) + distance).toNat]
    | none => [c]

/-- The first character that is not looked past is a letter that has a case. -/
def adjoinsLetter : List Char → Bool
  | [] => false
  | c :: rest =>
      if inRanges passedRanges c.toNat then adjoinsLetter rest
      else inRanges casedRanges c.toNat

/-- A text in lower case, given what stands before it, the last character first. A sigma ends
    its word if there is a letter before it and none behind. -/
def lowerBehind (before : List Char) : List Char → List Char
  | [] => []
  | c :: rest =>
      let lower :=
        if c = '\u03A3' && adjoinsLetter before && !adjoinsLetter rest then ['\u03C2']
        else lowerChar c
      lower ++ lowerBehind (c :: before) rest

/-- A text in lower case. -/
def lowerText (cs : List Char) : List Char := lowerBehind [] cs

end TagNesting
