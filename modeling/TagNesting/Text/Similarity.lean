/-!
# Similar Words

How alike two words are, to find out what somebody may have meant. Characters of the two
words are paired that are the same and not too far from each other, each with the first
one that is left. The similarity is the mean of three shares: of the one word that is
paired, of the other word that is paired, and of the pairs that come in the same order in
both words, where two that have changed places count as one.

## Main definitions

* `pairWords`: The characters of two words that are paired.
* `similarity`: How alike two words are, as a fraction.
* `similarWords`: The words that are alike enough to be suggested.
-/

namespace TagNesting

/-- A word of which the first character has been paired that is the given one, is not paired
    yet, and stands between two places; nothing if there is none. The flags say which
    characters have been paired. -/
def pairChar (c : Char) (low high : Nat) : (place : Nat) → List (Char × Bool) →
    Option (List (Char × Bool))
  | _, [] => none
  | place, (d, paired) :: rest =>
      if high < place then none
      else if low ≤ place && d == c && !paired then some ((d, true) :: rest)
      else (pairChar c low high (place + 1) rest).map ((d, paired) :: ·)

/-- The characters of a word, from the given place on, that can be paired with those of another,
    and the other word with its flags. Paired characters are at most `reach` places apart. -/
def pairWords (reach : Nat) : (place : Nat) → List Char → List (Char × Bool) →
    List Char × List (Char × Bool)
  | _, [], other => ([], other)
  | place, c :: rest, other =>
      match pairChar c (place - reach) (place + reach) 0 other with
      | some other' =>
          let (paired, last) := pairWords reach (place + 1) rest other'
          (c :: paired, last)
      | none => pairWords reach (place + 1) rest other

/-- How alike two words are, from zero to one, as numerator and denominator. -/
def similarity (word other : List Char) : Nat × Nat :=
  let reach := max word.length other.length / 2 - 1
  let (paired, flags) := pairWords reach 0 word (other.map (·, false))
  let partners := (flags.filter (·.2)).map (·.1)
  let count := paired.length
  let moved := ((paired.zip partners).filter fun (c, d) => c != d).length / 2
  if word.isEmpty && other.isEmpty then (1, 1)
  else if count = 0 then (0, 1)
  else
    (count * count * (word.length + other.length) +
        (count - moved) * word.length * other.length,
      3 * count * word.length * other.length)

/-- A word put into a list that goes from less to more alike, behind those as much alike. -/
def insertSimilar (entry : (Nat × Nat) × List Char) :
    List ((Nat × Nat) × List Char) → List ((Nat × Nat) × List Char)
  | [] => [entry]
  | other :: rest =>
      if entry.1.1 * other.1.2 < other.1.1 * entry.1.2 then entry :: other :: rest
      else other :: insertSimilar entry rest

/-- The words that are more than seven tenths alike, from less to more alike. -/
def similarWords (word : List Char) (words : List (List Char)) : List (List Char) :=
  let rated := words.map fun other => (similarity word other, other)
  let close := rated.filter fun entry => 7 * entry.1.2 < 10 * entry.1.1
  (close.foldl (fun sorted entry => insertSimilar entry sorted) []).map (·.2)

end TagNesting
