import Mathlib.Data.List.Basic
import Mathlib.Data.Nat.Digits.Defs
import TagNesting.Number.Whole

/-!
# Numerals

What the readers of numbers have to know about a numeral that was written by `decimal`. It
is made of digits, it stands for the number it was written for, and it begins with a zero
only if that is all of it, which is where readers tell numbers from texts that look like
them.

A reader with a bound looks at the bound after each digit. The number made so far only
grows, so a number within the bound is never refused on the way.

## Main definitions

* `extended`: The number that digits make behind those that have made a number.

## Theorems

* `numeralValue_decimal`: A numeral stands for its number.
* `decimal_injective`: A numeral is the numeral of one number.
* `decimal_eq_cons`: What a numeral begins with.
* `readWhole_decimal`: A numeral within the bound is read as its number.
-/

namespace TagNesting

-- The readers' digits are those of the library.
theorem isDigit_eq (c : Char) : isDigit c = c.isDigit := rfl

-- Of a digit the value is the distance from zero.
theorem digitValue_of_isDigit {c : Char} (h : isDigit c = true) :
    digitValue c = c.toNat - '0'.toNat := by
  rw [digitValue, if_pos h]
  rfl

/-- A numeral is made of digits. -/
theorem isDigit_of_mem_decimal {n : Nat} {c : Char} (h : c ∈ decimal n) : c.isDigit = true :=
  Nat.isDigit_of_mem_toDigits (by decide) (by decide) h

-- So it has no character that is none.
theorem notMem_decimal {n : Nat} {c : Char} (hc : c.isDigit = false) : c ∉ decimal n := by
  intro hmem
  rw [isDigit_of_mem_decimal hmem] at hc
  exact Bool.false_ne_true hc.symm

/-- A numeral is the numeral of one number. -/
theorem decimal_injective {m n : Nat} (h : decimal m = decimal n) : m = n := by
  have hvalue := congrArg (fun digits => Nat.ofDigitChars 10 digits 0) h
  simpa only [decimal, Nat.ofDigitChars_ten_toDigits] using hvalue

/-- The number that digits make behind those that have made `value`. -/
def extended (value : Nat) (digits : List Char) : Nat :=
  digits.foldl (fun value c => value * 10 + digitValue c) value

-- The digits are taken from the left, as the readers take them.
theorem extended_cons (value : Nat) (c : Char) (digits : List Char) :
    extended value (c :: digits) = extended (value * 10 + digitValue c) digits := rfl

/-- A number only grows as more digits are read. -/
theorem le_extended (value : Nat) (digits : List Char) : value ≤ extended value digits := by
  induction digits generalizing value with
  | nil => exact Nat.le_refl value
  | cons c digits ih =>
      have hnext := ih (value * 10 + digitValue c)
      rw [extended_cons]
      omega

-- From a number on, digits make what the library makes of them.
theorem extended_eq_ofDigitChars {digits : List Char} (h : ∀ c ∈ digits, isDigit c = true)
    (value : Nat) : extended value digits = Nat.ofDigitChars 10 digits value := by
  induction digits generalizing value with
  | nil => rfl
  | cons c digits ih =>
      rw [List.forall_mem_cons] at h
      rw [extended_cons, Nat.ofDigitChars_cons, ih h.2, digitValue_of_isDigit h.1,
        Nat.mul_comm value 10]

/-- A numeral stands for its number. -/
theorem numeralValue_decimal (n : Nat) : numeralValue 10 (decimal n) = n := by
  have hdigits : ∀ c ∈ decimal n, isDigit c = true := fun c hc => by
    rw [isDigit_eq]
    exact isDigit_of_mem_decimal hc
  calc numeralValue 10 (decimal n)
      = extended 0 (decimal n) := rfl
    _ = Nat.ofDigitChars 10 (Nat.toDigits 10 n) 0 := extended_eq_ofDigitChars hdigits 0
    _ = n := Nat.ofDigitChars_ten_toDigits

-- Only the numeral of zero begins with a zero.
theorem head?_decimal_ne {n : Nat} (h : n ≠ 0) : (decimal n).head? ≠ some '0' := by
  induction n using Nat.strong_induction_on with
  | h n ih =>
      rw [decimal, Nat.toDigits_eq_if (by decide)]
      by_cases hlt : n < 10
      · have hone : ∀ m < 10, m ≠ 0 → [Nat.digitChar m].head? ≠ some '0' := by decide
        rw [if_pos hlt]
        exact hone n hlt h
      · -- The digits before the last are those of a smaller number, which is not zero.
        rw [if_neg hlt, List.head?_append_of_ne_nil _ Nat.toDigits_ne_nil]
        exact ih (n / 10) (by omega) (by omega)

/-- A numeral begins with a digit, which is a zero only if the numeral ends there. -/
theorem decimal_eq_cons (n : Nat) : ∃ c rest, decimal n = c :: rest ∧ isDigit c = true ∧
    (c = '0' → n = 0 ∧ rest = []) := by
  rcases hdecimal : decimal n with _ | ⟨c, rest⟩
  · exact absurd hdecimal Nat.toDigits_ne_nil
  refine ⟨c, rest, rfl, ?_, ?_⟩
  · rw [isDigit_eq]
    exact isDigit_of_mem_decimal (hdecimal ▸ List.mem_cons_self)
  · rintro rfl
    have hn : n = 0 := by
      by_contra hne
      exact head?_decimal_ne hne (by rw [hdecimal, List.head?_cons])
    subst hn
    exact ⟨rfl, (List.cons.inj hdecimal).2.symm⟩

/-- Digits that stay within the bound are all read: on the way the number is no larger than it is in
    the end. -/
theorem wholeFrom_eq_ok {digits : List Char} {value : Nat}
    (hdigits : ∀ c ∈ digits, isDigit c = true) (hbound : extended value digits ≤ wholeBound) :
    wholeFrom value digits = .ok (extended value digits) := by
  induction digits generalizing value with
  | nil => rfl
  | cons c digits ih =>
      rw [List.forall_mem_cons] at hdigits
      rw [extended_cons] at hbound ⊢
      have hnext := le_extended (value * 10 + digitValue c) digits
      simp only [wholeFrom, hdigits.1, Bool.not_true, Bool.false_eq_true, if_false]
      rw [if_neg (by omega)]
      exact ih hdigits.2 hbound

/-- A numeral within the bound is read as its number. -/
theorem readWhole_decimal {n : Nat} (h : n ≤ wholeBound) : readWhole (decimal n) = .ok n := by
  have hvalue : extended 0 (decimal n) = n := numeralValue_decimal n
  have hread : wholeFrom 0 (decimal n) = .ok n := by
    rw [wholeFrom_eq_ok _ (hvalue.symm ▸ h), hvalue]
    intro c hc
    rw [isDigit_eq]
    exact isDigit_of_mem_decimal hc
  rcases decimal_eq_cons n with ⟨c, rest, hdecimal, hc, _⟩
  have hplus : c ≠ '+' := by
    rintro rfl
    exact absurd hc (by decide)
  rw [hdecimal] at hread ⊢
  simpa only [readWhole, List.cons.injEq, hplus, false_and, imp_self, implies_true] using hread

end TagNesting
