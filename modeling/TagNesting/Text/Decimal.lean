/-!
# Decimal Numerals

Natural numbers written in decimal, and read back from digits.

## Main definitions

* `decimal`: The shortest decimal numeral of a number.
* `isDigit`: An ASCII digit.
* `digitValue`: The value of a digit.
* `numeralValue`: The number that digits stand for in a given base.
-/

namespace TagNesting

/-- The decimal numeral of a number, without leading zeros. -/
def decimal (n : Nat) : List Char := Nat.toDigits 10 n

/-- An ASCII decimal digit. -/
def isDigit (c : Char) : Bool := '0' ≤ c && c ≤ '9'

/-- An ASCII hexadecimal digit of either case. -/
def isHexDigit (c : Char) : Bool :=
  isDigit c || ('a' ≤ c && c ≤ 'f') || ('A' ≤ c && c ≤ 'F')

/-- The value of a digit, letters of either case standing for ten and up. -/
def digitValue (c : Char) : Nat :=
  if isDigit c then c.toNat - 48
  else if 'a' ≤ c && c ≤ 'z' then c.toNat - 87
  else if 'A' ≤ c && c ≤ 'Z' then c.toNat - 55
  else 0

/-- The number that digits stand for in a base, the most significant one first. -/
def numeralValue (base : Nat) (digits : List Char) : Nat :=
  digits.foldl (fun value c => value * base + digitValue c) 0

end TagNesting
