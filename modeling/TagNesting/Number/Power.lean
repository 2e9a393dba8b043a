/-!
# Powers of Two and Ten

The powers that numbers in double precision and in decimal are made of.

## Main definitions

* `powerOfTwo`, `powerOfTen`: The powers.
-/

namespace TagNesting

/-- Two multiplied by itself `n` times. -/
def powerOfTwo (n : Nat) : Nat := Nat.pow 2 n

/-- Ten multiplied by itself `n` times. -/
def powerOfTen (n : Nat) : Nat := Nat.pow 10 n

end TagNesting
