import TagNesting.Number.Binary64
import TagNesting.Text.Decimal

/-!
# Shortest Decimals

A double precision number written with the fewest digits that read back as the same
number, and of those with the decimal nearest to it. The search is exact: the numbers that
round to a given one form an interval with rational ends, and for one digit, two, and so on
it tries the two decimals of that many digits on either side of the number. Seventeen
digits always suffice.

The digits are one thing and their layout another. Both layouts here are positional and
never use an exponent; `pointText` always shows a decimal point, as numbers that are not
meant as integers do.

## Main definitions

* `shortestDigits`: The digits and the power of ten they are multiplied by.
* `Binary64.plainText`: The number in positional notation.
* `Binary64.pointText`: The same with a decimal point, if the number is finite.
-/

namespace TagNesting

/-- The decimal exponent of the leading digit of `num / den`, which is positive. Numbers as
    small as 10 ^ -399 are told apart. -/
def leadingExponent (num den : Nat) : Int :=
  ((Nat.toDigits 10 (num * powerOfTen 400 / den)).length : Int) - 401

/-- The better of the two decimals around `value / grid` that lie between `low / grid` and
    `high / grid`, if one does. -/
def nearestWithin (low value high grid : Nat) (inclusive : Bool) : Option Nat :=
  let below := value / grid
  let fits := fun n : Nat =>
    if inclusive then low ≤ n * grid && n * grid ≤ high
    else low < n * grid && n * grid < high
  let above := below + 1
  match fits below, fits above with
  | true, true =>
      let down := value - below * grid
      let up := above * grid - value
      some (if down < up || (down == up && below % 2 == 0) then below else above)
  | true, false => some below
  | false, true => some above
  | false, false => none

/-- Digits without the zeros at their end, and the exponent that makes up for them. -/
def dropTrailingZeros : (fuel : Nat) → Nat → Int → Nat × Int
  | 0, digits, exponent => (digits, exponent)
  | fuel + 1, digits, exponent =>
      if digits % 10 = 0 && digits != 0 then dropTrailingZeros fuel (digits / 10) (exponent + 1)
      else (digits, exponent)

/-- The fewest digits that read back as `mantissa * 2 ^ exponent`, which is positive, with the
    power of ten they are multiplied by. The interval of numbers that round to it reaches
    half way to its neighbours, the lower one being nearer at a power of two, and holds its
    ends when the mantissa is even. -/
def shortestDigits (mantissa : Nat) (exponent : Int) : Nat × Int :=
  let quarter := exponent - 2
  let isPower := mantissa == powerOfTwo 52 && Binary64.minExponent < exponent
  let value := 4 * mantissa
  let low := if isPower then value - 1 else value - 2
  let high := value + 2
  let binaryUp := powerOfTwo quarter.toNat
  let binaryDown := powerOfTwo (-quarter).toNat
  let leading := leadingExponent (value * binaryUp) binaryDown
  let found := (List.range 17).findSome? fun (count : Nat) =>
    let place := leading - (count : Int)
    let up := binaryUp * powerOfTen (-place).toNat
    let grid := binaryDown * powerOfTen place.toNat
    (nearestWithin (low * up) (value * up) (high * up) grid (mantissa % 2 == 0)).map
      fun digits => dropTrailingZeros 20 digits place
  found.getD (value, 0)

/-- Digits times a power of ten in positional notation, with nothing behind the last digit. -/
def positional (digits : List Char) (exponent : Int) : List Char :=
  if 0 ≤ exponent then digits ++ List.replicate exponent.toNat '0'
  else
    let places := (-exponent).toNat
    if places < digits.length then
      digits.take (digits.length - places) ++ '.' :: digits.drop (digits.length - places)
    else ['0', '.'] ++ List.replicate (places - digits.length) '0' ++ digits

namespace Binary64

/-- The sign in front of a number. -/
def signText (negative : Bool) : List Char := if negative then ['-'] else []

/-- The number in positional notation, however many zeros that takes. -/
def plainText : Binary64 → List Char
  | .nan => "NaN".toList
  | .infinite negative => signText negative ++ "inf".toList
  | .finite negative mantissa exponent =>
      signText negative ++
        if mantissa = 0 then ['0']
        else
          let (digits, place) := shortestDigits mantissa exponent
          positional (decimal digits) place

/-- The number in positional notation with a point in it, if it is finite. -/
def pointText (x : Binary64) : List Char :=
  match x with
  | .finite .. => if x.plainText.contains '.' then x.plainText else x.plainText ++ ['.', '0']
  | _ => x.plainText

end Binary64

end TagNesting
