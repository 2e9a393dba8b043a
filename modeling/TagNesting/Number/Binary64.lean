import TagNesting.Number.Power

/-!
# Double Precision Numbers

Numbers as configuration files hold them: 53 bits of precision and a binary exponent. They
are kept as integers and every operation is exact arithmetic followed by one rounding, so
what they do can be reasoned about and does not hang on a processor.

`ofRatio` is that rounding: to the nearest number, an exact half going to the neighbour
with the even mantissa, and past the largest number to infinity. The rest is built on it.

## Main definitions

* `Binary64`: A double precision number.
* `roundHalfEven`: A quotient rounded to the nearest natural number.
* `Binary64.ofRatio`: The number nearest to a quotient.
* `Binary64.ofDecimal`: The number nearest to a decimal fraction.
* `Binary64.mul`, `Binary64.div`: Product and quotient of finite numbers.
* `Binary64.isZero`: The number is one of the two zeros.
* `Binary64.roundToNat`: The nearest natural number, halves going up, held within a bound.
-/

namespace TagNesting

/-- A double precision number. A finite one is `mantissa * 2 ^ exponent` with its sign; the
    exponent is at least -1074 and the mantissa below 2 ^ 53. -/
inductive Binary64 where
  /-- A finite number. -/
  | finite (negative : Bool) (mantissa : Nat) (exponent : Int)
  /-- Beyond every finite number. -/
  | infinite (negative : Bool)
  /-- Not a number at all. -/
  | nan
  deriving DecidableEq, Repr

/-- The natural number nearest to `num / den`, the even one of two that are equally near. -/
def roundHalfEven (num den : Nat) : Nat :=
  let quotient := num / den
  let twice := 2 * (num % den)
  if den < twice || (twice == den && quotient % 2 == 1) then quotient + 1 else quotient

namespace Binary64

/-- The least exponent of a finite number. -/
def minExponent : Int := -1074

/-- The largest exponent of a finite number. -/
def maxExponent : Int := 971

/-- The numerator and the denominator of `num / den / 2 ^ exponent`. -/
def scaleBy (exponent : Int) (num den : Nat) : Nat × Nat :=
  (num * powerOfTwo (-exponent).toNat, den * powerOfTwo exponent.toNat)

/-- The number nearest to `num / den`. The exponent is the one that leaves 53 bits before the
    point, unless that is below the least; rounding up may still reach the next power of
    two. -/
def ofRatio (negative : Bool) (num den : Nat) : Binary64 :=
  if num = 0 then .finite negative 0 minExponent
  else
    let guess : Int := (Nat.log2 num : Int) - Nat.log2 den - 52
    let atGuess := scaleBy guess num den
    let normal := if atGuess.1 / atGuess.2 < powerOfTwo 52 then guess - 1 else guess
    let exponent := max normal minExponent
    let scaled := scaleBy exponent num den
    let mantissa := roundHalfEven scaled.1 scaled.2
    let (mantissa, exponent) :=
      if mantissa = powerOfTwo 53 then (powerOfTwo 52, exponent + 1) else (mantissa, exponent)
    if maxExponent < exponent then .infinite negative
    else .finite negative mantissa exponent

/-- The number nearest to `digits * 10 ^ exponent`. Fractions that are surely too large or too
    small are settled by their exponent alone, so that no power of ten grows out of hand. -/
def ofDecimal (negative : Bool) (digits : Nat) (exponent : Int) : Binary64 :=
  let magnitude := exponent + (Nat.toDigits 10 digits).length
  if digits = 0 || magnitude < -400 then .finite negative 0 minExponent
  else if 400 < magnitude then .infinite negative
  else ofRatio negative (digits * powerOfTen exponent.toNat) (powerOfTen (-exponent).toNat)

/-- The product of two finite numbers. -/
def mul : Binary64 → Binary64 → Binary64
  | .finite n₁ m₁ e₁, .finite n₂ m₂ e₂ =>
      let scaled := scaleBy (-(e₁ + e₂)) (m₁ * m₂) 1
      ofRatio (n₁ != n₂) scaled.1 scaled.2
  | _, _ => .nan

/-- The quotient of two finite numbers, the second of which is not zero. -/
def div : Binary64 → Binary64 → Binary64
  | .finite n₁ m₁ e₁, .finite n₂ m₂ e₂ =>
      let scaled := scaleBy (-(e₁ - e₂)) m₁ m₂
      ofRatio (n₁ != n₂) scaled.1 scaled.2
  | _, _ => .nan

/-- The number with the other sign. -/
def neg : Binary64 → Binary64
  | .finite n m e => .finite (!n) m e
  | .infinite n => .infinite (!n)
  | .nan => .nan

/-- The number is zero, of either sign. -/
def isZero : Binary64 → Bool
  | .finite _ m _ => m == 0
  | _ => false

/-- The natural number nearest to a number, a half going up, and no further than the bounds:
    zero from below and `bound` from above. What is not a number counts as zero. -/
def roundToNat (bound : Nat) : Binary64 → Nat
  | .finite true _ _ => 0
  | .finite false m e =>
      let scaled := scaleBy (-e) m 1
      min bound ((2 * scaled.1 + scaled.2) / (2 * scaled.2))
  | .infinite true => 0
  | .infinite false => bound
  | .nan => 0

end Binary64

end TagNesting
