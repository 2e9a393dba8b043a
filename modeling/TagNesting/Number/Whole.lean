import TagNesting.Text.Decimal

/-!
# Whole Numbers from Text

A whole number that fits 64 bits, read from a text that is nothing but that number. A plus
sign may stand in front of it and leading zeros do not count. A text that is none is
refused at the first character that shows it.

## Main definitions

* `WholeFault`: Why a text is no such number.
* `WholeFault.text`: The reason in words.
* `readWhole`: The number that a text is.
-/

namespace TagNesting

/-- Why a text is no whole number of 64 bits. -/
inductive WholeFault where
  /-- There is nothing. -/
  | empty
  /-- A character is no digit. -/
  | badDigit
  /-- The number is too large. -/
  | tooLarge
  deriving DecidableEq, Repr

/-- The reason in words. -/
def WholeFault.text : WholeFault → List Char
  | empty => "cannot parse integer from empty string".toList
  | badDigit => "invalid digit found in string".toList
  | tooLarge => "number too large to fit in target type".toList

/-- The largest number of 64 bits. -/
def wholeBound : Nat := 18446744073709551615

/-- The number that digits make behind those that have made `value`. -/
def wholeFrom (value : Nat) : List Char → Except WholeFault Nat
  | [] => .ok value
  | c :: rest =>
      let next := value * 10 + digitValue c
      if !isDigit c then .error .badDigit
      else if wholeBound < next then .error .tooLarge
      else wholeFrom next rest

/-- The number that a text is. -/
def readWhole (cs : List Char) : Except WholeFault Nat :=
  match cs with
  | [] => .error .empty
  | ['+'] => .error .badDigit
  | '+' :: rest => wholeFrom 0 rest
  | _ => wholeFrom 0 cs

end TagNesting
