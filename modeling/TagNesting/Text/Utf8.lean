/-!
# UTF-8

Text read from bytes. A character begins with a byte that says how many more belong to it
and, at the edges of the encoding, between which bounds the second one lies: those bounds
rule out longer spellings of a character, the surrogates, and what lies past the last code
point. Every other continuation byte lies between 0x80 and 0xBF.

One step either takes a character or finds that the bytes at hand begin none. Then it
steps over as many of them as still could have begun one, and over one at the least. Text
is taken strictly, where every step has to find a character, or leniently, where each
failed step leaves one replacement character.

## Main definitions

* `takeTail`: The continuation bytes of a character.
* `takeChar`: One step through the bytes.
* `decodeUtf8?`: The text that bytes spell.
* `decodeUtf8Lossy`: The text, with a replacement for what spells none.

## Theorems

* `decodeUtf8?_cons`, `decodeUtf8Lossy_cons`: Bytes that begin with a character.
-/

namespace TagNesting

/-- The continuation bytes of a character, of which `count` are missing and the next one lies
    between the given bounds. The rest begins where the first byte is that does not belong to
    it. -/
def takeTail (value : Nat) : (count low high : Nat) → List UInt8 → Option Nat × List UInt8
  | 0, _, _, bytes => (some value, bytes)
  | _ + 1, _, _, [] => (none, [])
  | count + 1, low, high, byte :: rest =>
      if low ≤ byte.toNat && byte.toNat ≤ high then
        takeTail (value * 64 + byte.toNat % 64) count 0x80 0xBF rest
      else (none, byte :: rest)

/-- One step: the number of the character that the bytes begin with, if they begin with one,
    and the bytes behind. The first byte is given apart from the rest. -/
def takeChar (first : UInt8) (rest : List UInt8) : Option Nat × List UInt8 :=
  let n := first.toNat
  if n < 0x80 then (some n, rest)
  else if 0xC2 ≤ n && n ≤ 0xDF then takeTail (n % 32) 1 0x80 0xBF rest
  else if n = 0xE0 then takeTail 0 2 0xA0 0xBF rest
  else if n = 0xED then takeTail (n % 16) 2 0x80 0x9F rest
  else if 0xE1 ≤ n && n ≤ 0xEF then takeTail (n % 16) 2 0x80 0xBF rest
  else if n = 0xF0 then takeTail 0 3 0x90 0xBF rest
  else if 0xF1 ≤ n && n ≤ 0xF3 then takeTail (n % 8) 3 0x80 0xBF rest
  else if n = 0xF4 then takeTail (n % 8) 3 0x80 0x8F rest
  else (none, rest)

/-- Stepping over continuation bytes leaves no more than there was. -/
theorem length_takeTail_le (value count low high : Nat) (bytes : List UInt8) :
    (takeTail value count low high bytes).2.length ≤ bytes.length := by
  induction bytes generalizing value count low high with
  | nil => cases count <;> simp only [takeTail, List.length_nil, Nat.le_refl]
  | cons byte rest ih =>
      cases count with
      | zero => simp only [takeTail, Nat.le_refl]
      | succ count =>
          simp only [takeTail]
          split
          · exact Nat.le_succ_of_le (ih _ _ _ _)
          · exact Nat.le_refl _

/-- A step leaves no more than what stands behind the first byte. -/
theorem length_takeChar_le (first : UInt8) (rest : List UInt8) :
    (takeChar first rest).2.length ≤ rest.length := by
  simp only [takeChar]
  repeat' split
  all_goals first | exact Nat.le_refl _ | exact length_takeTail_le _ _ _ _ _

/-- The text that bytes spell, or nothing if some of them spell no character. -/
def decodeUtf8? : List UInt8 → Option (List Char)
  | [] => some []
  | first :: rest =>
      match takeChar first rest, length_takeChar_le first rest with
      | (some n, behind), _ => (decodeUtf8? behind).map (Char.ofNat n :: ·)
      | (none, _), _ => none
  termination_by bytes => bytes.length
  decreasing_by simp_all only [List.length_cons]; omega

/-- The text that bytes spell, where U+FFFD stands for each run of bytes that spells no
    character. -/
def decodeUtf8Lossy : List UInt8 → List Char
  | [] => []
  | first :: rest =>
      match takeChar first rest, length_takeChar_le first rest with
      | (some n, behind), _ => Char.ofNat n :: decodeUtf8Lossy behind
      | (none, behind), _ => '\uFFFD' :: decodeUtf8Lossy behind
  termination_by bytes => bytes.length
  decreasing_by all_goals simp_all only [List.length_cons]; omega

variable {first : UInt8} {rest behind : List UInt8} {n : Nat}

/-- Where the bytes begin with a character, it is decoded, and then what is behind it. -/
theorem decodeUtf8?_cons (h : takeChar first rest = (some n, behind)) :
    decodeUtf8? (first :: rest) = (decodeUtf8? behind).map (Char.ofNat n :: ·) := by
  rw [decodeUtf8?]
  split
  · rename_i heq _
    rw [h, Prod.mk.injEq, Option.some.injEq] at heq
    rw [heq.1, heq.2]
  · rename_i heq _
    rw [h] at heq
    cases heq

theorem decodeUtf8Lossy_cons (h : takeChar first rest = (some n, behind)) :
    decodeUtf8Lossy (first :: rest) = Char.ofNat n :: decodeUtf8Lossy behind := by
  rw [decodeUtf8Lossy]
  split
  · rename_i heq _
    rw [h, Prod.mk.injEq, Option.some.injEq] at heq
    rw [heq.1, heq.2]
  · rename_i heq _
    rw [h] at heq
    cases heq

end TagNesting
