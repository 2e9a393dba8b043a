/-!
# Byte Positions in Text

Every position this library reports counts bytes of UTF-8, while text is a list of
characters. These functions go between the two: the size of a text in bytes, and the
text from a byte position on, which exists only where a character begins.

## Main definitions

* `byteLength`: The size of a text in bytes.
* `fromByte?`: The text from a byte position on.
* `fromByte`: The same, empty where there is none.
* `uptoByte`: The longest run of whole characters that ends at or before a byte position.
-/

namespace TagNesting

/-- The size of a text in bytes of UTF-8. -/
def byteLength : List Char → Nat
  | [] => 0
  | c :: rest => c.utf8Size + byteLength rest

@[simp] theorem byteLength_nil : byteLength [] = 0 := rfl

@[simp] theorem byteLength_cons (c : Char) (cs : List Char) :
    byteLength (c :: cs) = c.utf8Size + byteLength cs := rfl

/-- The size of a text is the sum over its parts. -/
@[simp] theorem byteLength_append (cs ds : List Char) :
    byteLength (cs ++ ds) = byteLength cs + byteLength ds := by
  induction cs with
  | nil => simp only [List.nil_append, byteLength_nil, Nat.zero_add]
  | cons c cs ih => simp only [List.cons_append, byteLength_cons, ih, Nat.add_assoc]

theorem byteLength_eq_zero {cs : List Char} (h : byteLength cs = 0) : cs = [] := by
  cases cs with
  | nil => rfl
  | cons c rest =>
      have hsize := c.utf8Size_pos
      rw [byteLength_cons] at h
      omega

/-- Of two parts that a text begins with, the shorter one is the front of the other. -/
theorem exists_append_of_byteLength_le {cs ds front rest : List Char}
    (h : cs ++ ds = front ++ rest) (hle : byteLength cs ≤ byteLength front) :
    ∃ gap, front = cs ++ gap ∧ ds = gap ++ rest := by
  rcases List.append_eq_append_iff.mp h with ⟨gap, hfront, hds⟩ | ⟨gap, hcs, hrest⟩
  · exact ⟨gap, hfront, hds⟩
  · rw [hcs, byteLength_append] at hle
    have hgap := byteLength_eq_zero (show byteLength gap = 0 by omega)
    rw [hgap, List.append_nil] at hcs
    rw [hgap, List.nil_append] at hrest
    exact ⟨[], by rw [hcs, List.append_nil], by rw [hrest, List.nil_append]⟩

/-- A text is cut at a byte in one way only. -/
theorem append_inj_of_byteLength_eq {cs ds front rest : List Char}
    (h : cs ++ ds = front ++ rest) (heq : byteLength cs = byteLength front) :
    cs = front ∧ ds = rest := by
  rcases exists_append_of_byteLength_le h (Nat.le_of_eq heq) with ⟨gap, hfront, hds⟩
  rw [hfront, byteLength_append] at heq
  have hgap := byteLength_eq_zero (show byteLength gap = 0 by omega)
  rw [hgap] at hfront hds
  exact ⟨by rw [hfront, List.append_nil], hds⟩

/-- The text from byte `n` on. There is none when `n` lies past the end or inside a
    character. -/
def fromByte? : Nat → List Char → Option (List Char)
  | 0, cs => some cs
  | _ + 1, [] => none
  | n + 1, c :: rest =>
      if c.utf8Size ≤ n + 1 then fromByte? (n + 1 - c.utf8Size) rest else none

/-- The text from byte `n` on, or nothing where no character begins. -/
def fromByte (n : Nat) (cs : List Char) : List Char :=
  (fromByte? n cs).getD []

/-- The longest run of whole characters from the start that ends at or before byte `n`. -/
def uptoByte : Nat → List Char → List Char
  | _, [] => []
  | n, c :: rest =>
      if c.utf8Size ≤ n then c :: uptoByte (n - c.utf8Size) rest else []

theorem uptoByte_zero (cs : List Char) : uptoByte 0 cs = [] := by
  cases cs with
  | nil => rfl
  | cons c rest =>
      have hsize := c.utf8Size_pos
      rw [uptoByte, if_neg (by omega)]

/-- Up to a byte behind the first of two texts there is all of that text. -/
theorem uptoByte_append_of_le {cs : List Char} {n : Nat} (h : byteLength cs ≤ n)
    (ds : List Char) : uptoByte n (cs ++ ds) = cs ++ uptoByte (n - byteLength cs) ds := by
  induction cs generalizing n with
  | nil => rfl
  | cons c cs ih =>
      rw [byteLength_cons] at h
      rw [List.cons_append, uptoByte, if_pos (by omega), ih (by omega), byteLength_cons,
        Nat.sub_sub, List.cons_append]

/-- Up to a byte of the first of two texts there is nothing of the other. -/
theorem uptoByte_append_of_ge {cs : List Char} {n : Nat} (h : n ≤ byteLength cs)
    (ds : List Char) : uptoByte n (cs ++ ds) = uptoByte n cs := by
  induction cs generalizing n with
  | nil =>
      rw [Nat.le_zero.mp h, uptoByte_zero, uptoByte_zero]
  | cons c cs ih =>
      rw [byteLength_cons] at h
      rw [List.cons_append, uptoByte, uptoByte]
      by_cases hc : c.utf8Size ≤ n
      · rw [if_pos hc, if_pos hc, ih (by omega)]
      · rw [if_neg hc, if_neg hc]

theorem uptoByte_append (cs ds : List Char) : uptoByte (byteLength cs) (cs ++ ds) = cs := by
  rw [uptoByte_append_of_le (Nat.le_refl _), Nat.sub_self, uptoByte_zero, List.append_nil]

theorem uptoByte_of_le {cs : List Char} {n : Nat} (h : byteLength cs ≤ n) :
    uptoByte n cs = cs := by
  have happend := uptoByte_append_of_le h []
  rwa [List.append_nil, uptoByte, List.append_nil] at happend

theorem uptoByte_isPrefix (n : Nat) (cs : List Char) : uptoByte n cs <+: cs := by
  induction cs generalizing n with
  | nil => exact List.prefix_rfl
  | cons c cs ih =>
      rw [uptoByte]
      split
      · exact List.cons_prefix_cons.mpr ⟨rfl, ih _⟩
      · exact List.nil_prefix

end TagNesting
