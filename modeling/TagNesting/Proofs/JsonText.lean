import TagNesting.Json.Reader
import TagNesting.Json.Writer
import TagNesting.Proofs.Numeral

/-!
# Reading What Was Written

The reader of JSON gives back what the writer of JSON was given. That holds of every value
without floating point numbers whose whole numbers fit 64 bits and whose arrays and objects
nest no deeper than the reader allows; strings and names of fields can hold any characters.

The writer puts the parts of a value on lines of their own, so what stands behind a value is
a comma, a line end, or nothing. That matters for numbers alone, which end where something
else begins. All other values know their ends.

The fuel of the reader is counted against the text it is given. Each of its steps goes down
into a part that is shorter than the whole by the bracket, the quote or the comma before it.

## Main definitions

* `JsonNumber.Legible`, `Json.Legible`: What is read back exactly.
* `EndsNumber`: A text that no number goes on into.

## Theorems

* `readText_escaped`: A string is read back, whatever it holds.
* `readNumber_decimal`: A whole number is read back.
* `readValue_indented`, `readItems_indentedItems`, `readFields_indentedFields`: So are values,
  items and fields.
* `readJson_indented`: So is a document.
-/

namespace TagNesting

/-! ## Strings -/

-- The digits of a control character, of which there are few enough to look at each.
theorem hexDigits_control : ∀ n < 32, isHexDigit (hexDigit (n / 16)) = true ∧
    isHexDigit (hexDigit (n % 16)) = true ∧ (hexDigit (n / 16)).utf8Size = 1 ∧
    (hexDigit (n % 16)).utf8Size = 1 ∧
    numeralValue 16 ['0', '0', hexDigit (n / 16), hexDigit (n % 16)] = n := by decide +kernel

/-- A control character comes back from its four digits. -/
theorem readEscape_control {c : Char} (h : c.toNat < 0x20) (rest : List Char) :
    readEscape ('u' :: '0' :: '0' :: hexDigit (c.toNat / 16) :: hexDigit (c.toNat % 16) :: rest)
      = .ok (c, rest) := by
  rcases hexDigits_control c.toNat h with ⟨hhigh, hlow, hhighSize, hlowSize, hvalue⟩
  -- Four digits make the code, and a control character is no half of a surrogate pair.
  have hhex : readHex ('0' :: '0' :: hexDigit (c.toNat / 16) :: hexDigit (c.toNat % 16) :: rest)
      = .ok (c.toNat, rest) := by
    have hzero : isHexDigit '0' = true := by decide
    have hsize : ¬ byteLength ('0' :: '0' :: hexDigit (c.toNat / 16) ::
        hexDigit (c.toNat % 16) :: rest) < 4 := by
      have hzeroSize : '0'.utf8Size = 1 := by decide
      simp only [byteLength_cons, hhighSize, hlowSize, hzeroSize]
      omega
    rw [readHex, if_neg hsize]
    simp only [List.take_succ_cons, List.take_zero, List.drop_succ_cons, List.drop_zero,
      List.all_cons, List.all_nil, hzero, hhigh, hlow, hvalue, Bool.and_self, if_true]
  have hsurrogate : ¬ ((0xDC00 ≤ c.toNat && c.toNat ≤ 0xDFFF) = true) := by
    simp only [Bool.and_eq_true, decide_eq_true_eq]
    omega
  have hplain : (c.toNat < 0xD800 || 0xDBFF < c.toNat) = true := by
    simp only [Bool.or_eq_true, decide_eq_true_eq]
    omega
  simp only [readEscape, readCodeEscape, hhex, bind, Except.bind, if_neg hsurrogate, if_pos hplain,
    Char.ofNat_toNat]

/-- A character stands in a string as itself or as an escape that is read as it. -/
theorem escapedChar_cases (c : Char) :
    (escapedChar c = [c] ∧ c ≠ '"' ∧ c ≠ '\\' ∧ ¬ c.toNat < 0x20) ∨
      ∃ escape, escapedChar c = '\\' :: escape ∧
        ∀ rest, readEscape (escape ++ rest) = .ok (c, rest) := by
  by_cases hshort : c ∈ ['"', '\\', '\x08', '\t', '\n', '\x0c', '\r']
  · simp only [List.mem_cons, List.not_mem_nil, or_false] at hshort
    rcases hshort with rfl | rfl | rfl | rfl | rfl | rfl | rfl
    all_goals exact Or.inr ⟨_, rfl, fun rest => rfl⟩
  · simp only [List.mem_cons, List.not_mem_nil, or_false, not_or] at hshort
    rcases hshort with ⟨hquote, hbackslash, hb, ht, hn, hf, hr⟩
    have hlong : escapedChar c = if c.toNat < 0x20 then
        ['\\', 'u', '0', '0', hexDigit (c.toNat / 16), hexDigit (c.toNat % 16)] else [c] := by
      rw [escapedChar, if_neg hquote, if_neg hbackslash, if_neg hb, if_neg ht, if_neg hn,
        if_neg hf, if_neg hr]
    rw [hlong]
    by_cases hcontrol : c.toNat < 0x20
    · rw [if_pos hcontrol]
      exact Or.inr ⟨_, rfl, fun rest => readEscape_control hcontrol rest⟩
    · rw [if_neg hcontrol]
      exact Or.inl ⟨rfl, hquote, hbackslash, hcontrol⟩

/-- A character of a string is read back. -/
theorem readTextFrom_escapedChar (fuel : Nat) (c : Char) (rest : List Char) :
    readTextFrom (fuel + 1) (escapedChar c ++ rest)
      = (readTextFrom fuel rest).map fun read => (c :: read.1, read.2) := by
  rcases escapedChar_cases c with ⟨hplain, hquote, hbackslash, hcontrol⟩ | ⟨escape, hescape, hread⟩
  · rw [hplain, List.singleton_append, readTextFrom, if_neg hquote, if_neg hbackslash,
      if_neg hcontrol]
    rfl
  · have hquote : '\\' ≠ '"' := by decide
    rw [hescape, List.cons_append, readTextFrom, if_neg hquote, if_pos rfl, hread]
    rfl

/-- A string is read back up to its quote, given fuel for each of its characters. -/
theorem readTextFrom_escaped (text rest : List Char) {fuel : Nat} (h : text.length < fuel) :
    readTextFrom fuel (text.flatMap escapedChar ++ '"' :: rest) = .ok (text, rest) := by
  induction text generalizing fuel with
  | nil =>
      cases fuel with
      | zero => exact absurd h (Nat.not_lt_zero _)
      | succ fuel => rfl
  | cons c text ih =>
      cases fuel with
      | zero => exact absurd h (Nat.not_lt_zero _)
      | succ fuel =>
          rw [List.flatMap_cons, List.append_assoc, readTextFrom_escapedChar,
            ih (Nat.lt_of_succ_lt_succ h)]
          rfl

-- An escape is never shorter than what it stands for, so fuel for the one will do for the other.
theorem length_le_length_escaped (text : List Char) :
    text.length ≤ (text.flatMap escapedChar).length := by
  induction text with
  | nil => exact Nat.le_refl 0
  | cons c text ih =>
      have hone : 1 ≤ (escapedChar c).length := by
        rcases escapedChar_cases c with ⟨hplain, _⟩ | ⟨escape, hescape, _⟩
        · rw [hplain, List.length_singleton]
        · rw [hescape, List.length_cons]
          omega
      rw [List.flatMap_cons, List.length_append, List.length_cons]
      omega

/-- A string is read back, whatever it holds. -/
theorem readText_escaped (text rest : List Char) :
    readText (text.flatMap escapedChar ++ '"' :: rest) = .ok (text, rest) := by
  have hlength := length_le_length_escaped text
  refine readTextFrom_escaped text rest ?_
  rw [List.length_append, List.length_cons]
  omega

/-! ## Numbers -/

/-- A number ends where the text begins. -/
def EndsNumber (rest : List Char) : Prop :=
  ∀ c ∈ rest.head?, isDigit c = false ∧ c ≠ '.' ∧ c ≠ 'e' ∧ c ≠ 'E'

-- What the reader asks of such a text: it begins with no digit, it has none to take, and it loses
-- none.
theorem EndsNumber.isDigit_head? {rest : List Char} (h : EndsNumber rest) :
    (rest.head?.map isDigit).getD false = false := by
  cases rest with
  | nil => rfl
  | cons c rest => exact (h c rfl).1

theorem EndsNumber.takeWhile_eq {rest : List Char} (h : EndsNumber rest) :
    rest.takeWhile isDigit = [] := by
  cases rest with
  | nil => rfl
  | cons c rest => rw [List.takeWhile_cons_of_neg (by rw [(h c rfl).1]; exact Bool.false_ne_true)]

theorem EndsNumber.dropWhile_eq {rest : List Char} (h : EndsNumber rest) :
    rest.dropWhile isDigit = rest := by
  cases rest with
  | nil => rfl
  | cons c rest => rw [List.dropWhile_cons_of_neg (by rw [(h c rfl).1]; exact Bool.false_ne_true)]

/-- Digits are taken up to where the number ends, and all of them if their value fits. -/
theorem takeDigits_append {digits rest : List Char} {value : Nat}
    (hdigits : ∀ c ∈ digits, isDigit c = true) (hbound : extended value digits ≤ maxWhole)
    (hrest : EndsNumber rest) :
    takeDigits value (digits ++ rest) = (extended value digits, digits.length, rest) := by
  induction digits generalizing value with
  | nil =>
      cases rest with
      | nil => rfl
      | cons c rest =>
          rw [List.nil_append, takeDigits]
          simp only [(hrest c rfl).1, Bool.false_and, Bool.false_eq_true, if_false]
          rfl
  | cons c digits ih =>
      rw [List.forall_mem_cons] at hdigits
      rw [extended_cons] at hbound ⊢
      have hnext := le_extended (value * 10 + digitValue c) digits
      have hfits : value * 10 + digitValue c ≤ maxWhole := by omega
      rw [List.cons_append, takeDigits]
      simp only [hdigits.1, hfits, decide_true, Bool.and_self, if_true, ih hdigits.2 hbound,
        List.length_cons]

/-- A number whose digits have been taken is whole if it ends there. -/
theorem readNumber_eq_ok (negative : Bool) {c : Char} {digits behind : List Char}
    {whole count : Nat} (hc : isDigit c = true)
    (hzero : (c == '0' && (digits.head?.map isDigit).getD false) = false)
    (htaken : (if (c == '0') = true then (0, 1, digits) else takeDigits 0 (c :: digits))
      = (whole, count, behind)) (hbehind : EndsNumber behind) :
    readNumber negative (c :: digits) = .ok (wholeNumber negative whole, behind) := by
  simp only [readNumber, hc, hzero, htaken, Bool.not_true, Bool.false_eq_true, if_false]
  rw [hbehind.takeWhile_eq, hbehind.dropWhile_eq]
  cases behind with
  | nil => rfl
  | cons d rest =>
      rcases hbehind d rfl with ⟨_, hpoint, he, hE⟩
      split
      · rename_i heq
        exact absurd (List.cons.inj heq).1 hpoint
      · rename_i heq
        exact absurd (List.cons.inj heq).1 he
      · rename_i heq
        exact absurd (List.cons.inj heq).1 hE
      · rfl

/-- A whole number is read back, behind a sign or not. -/
theorem readNumber_decimal (negative : Bool) {n : Nat} (h : n ≤ maxWhole) {rest : List Char}
    (hrest : EndsNumber rest) :
    readNumber negative (decimal n ++ rest) = .ok (wholeNumber negative n, rest) := by
  have hdigits : ∀ c ∈ decimal n, isDigit c = true := fun c hc => by
    rw [isDigit_eq]
    exact isDigit_of_mem_decimal hc
  have hvalue : extended 0 (decimal n) = n := numeralValue_decimal n
  have htake := takeDigits_append hdigits (hvalue.symm ▸ h) hrest
  rcases decimal_eq_cons n with ⟨c, digits, hdecimal, hc, hzero⟩
  rw [hdecimal] at htake hvalue ⊢
  rw [List.cons_append] at htake ⊢
  by_cases hc0 : c = '0'
  · rcases hzero hc0 with ⟨rfl, rfl⟩
    refine readNumber_eq_ok negative hc ?_ (if_pos (beq_iff_eq.mpr hc0)) hrest
    rw [List.nil_append, hrest.isDigit_head?, Bool.and_false]
  · have hc0' : (c == '0') = false := beq_eq_false_iff_ne.mpr hc0
    rw [hvalue] at htake
    refine readNumber_eq_ok negative hc ?_ ((if_neg (hc0' ▸ Bool.false_ne_true)).trans htake) hrest
    rw [hc0', Bool.false_and]

/-! ## Values -/

/-- A number that is kept exactly. -/
def JsonNumber.Legible : JsonNumber → Prop
  | .natural n => n ≤ maxWhole
  | .negative n => n ≠ 0 ∧ n ≤ 9223372036854775808
  | .float _ => False

namespace Json

mutual

/-- A value that is read back where arrays and objects may nest less than `room` deep. -/
def Legible (room : Nat) : Json → Prop
  | .number value => value.Legible
  | .array items => 1 < room ∧ LegibleItems (room - 1) items
  | .object fields => 1 < room ∧ LegibleFields (room - 1) fields
  | _ => True

/-- Items that are read back. -/
def LegibleItems (room : Nat) : List Json → Prop
  | [] => True
  | item :: items => item.Legible room ∧ LegibleItems room items

/-- Fields that are read back, whatever their names. -/
def LegibleFields (room : Nat) : List (List Char × Json) → Prop
  | [] => True
  | (_, value) :: fields => value.Legible room ∧ LegibleFields room fields

end

/-- Items are read back if each of them is. -/
theorem legibleItems_iff {room : Nat} {items : List Json} :
    LegibleItems room items ↔ ∀ item ∈ items, item.Legible room := by
  induction items with
  | nil => simp only [LegibleItems, List.not_mem_nil, false_imp_iff, implies_true]
  | cons item items ih => rw [LegibleItems, ih, List.forall_mem_cons]

/-- Fields are read back if each of their values is. -/
theorem legibleFields_iff {room : Nat} {fields : List (List Char × Json)} :
    LegibleFields room fields ↔ ∀ field ∈ fields, field.2.Legible room := by
  induction fields with
  | nil => simp only [LegibleFields, List.not_mem_nil, false_imp_iff, implies_true]
  | cons field fields ih => rw [LegibleFields, ih, List.forall_mem_cons]

end Json

-- A value begins with no space, be it with a digit or with one of a few other characters.
theorem isJsonSpace_of_isDigit {c : Char} (h : isDigit c = true) : isJsonSpace c = false := by
  by_contra hspace
  simp only [isJsonSpace, Bool.not_eq_false, Bool.or_eq_true, beq_iff_eq] at hspace
  rcases hspace with ((rfl | rfl) | rfl) | rfl
  all_goals exact absurd h (by decide)

/-- A value begins with a character that is no space and ends no array. -/
theorem indented_eq_cons {value : Json} {room : Nat} (h : value.Legible room) (depth : Nat) :
    ∃ c rest, value.indented depth = c :: rest ∧ isJsonSpace c = false ∧ c ≠ ']' := by
  rcases value with _ | (_ | _) | (n | n | x) | text | (_ | ⟨item, items⟩) |
    (_ | ⟨⟨name, value⟩, fields⟩)
  case number.natural =>
      rcases decimal_eq_cons n with ⟨c, rest, hdecimal, hc, _⟩
      refine ⟨c, rest, hdecimal, isJsonSpace_of_isDigit hc, ?_⟩
      rintro rfl
      exact absurd hc (by decide)
  case number.float =>
      rw [Json.Legible] at h
      exact h.elim
  all_goals exact ⟨_, _, rfl, by decide, by decide⟩

theorem skipJsonSpace_of_not {c : Char} (hc : isJsonSpace c = false) (rest : List Char) :
    skipJsonSpace (c :: rest) = c :: rest := by
  rw [skipJsonSpace, List.dropWhile_cons_of_neg (by rw [hc]; exact Bool.false_ne_true)]

/-- The line end and the spaces in front of an item are passed over. -/
theorem skipJsonSpace_newLine {c : Char} (hc : isJsonSpace c = false) (depth : Nat)
    (rest : List Char) : skipJsonSpace (newLine depth ++ c :: rest) = c :: rest := by
  have hspaces : ∀ d ∈ newLine depth, isJsonSpace d = true := by
    intro d hd
    rcases List.mem_cons.mp hd with rfl | hd
    · decide
    · rw [List.eq_of_mem_replicate hd]
      decide
  rw [skipJsonSpace, List.dropWhile_append_of_pos hspaces]
  exact skipJsonSpace_of_not hc rest

-- Whatever the writer puts behind a number, the number ends there.
theorem endsNumber_newLine (depth : Nat) (rest : List Char) :
    EndsNumber (newLine depth ++ rest) := by
  intro c hc
  rw [newLine, List.cons_append, List.head?_cons, Option.mem_some_iff] at hc
  subst hc
  decide

theorem endsNumber_comma (rest : List Char) : EndsNumber (',' :: rest) := by
  intro c hc
  rw [List.head?_cons, Option.mem_some_iff] at hc
  subst hc
  decide

/-- A digit begins a number. -/
theorem readValue_digit {c : Char} (hc : isDigit c = true) (fuel room : Nat) (rest : List Char) :
    readValue (fuel + 1) room (c :: rest)
      = (readNumber false (c :: rest)).map fun read => (.number read.1, read.2) := by
  have hletter : ∀ d ∈ ['n', 't', 'f', '-'], c ≠ d := by
    rintro d hd rfl
    have hnone : ['n', 't', 'f', '-'].all (fun d => !isDigit d) = true := by decide
    have hnot := List.all_eq_true.mp hnone c hd
    rw [hc] at hnot
    exact Bool.false_ne_true hnot
  simp only [List.forall_mem_cons, List.not_mem_nil, false_imp_iff, implies_true] at hletter
  rw [readValue, skipJsonSpace_of_not (isJsonSpace_of_isDigit hc)]
  simp only [hletter, if_false, hc, if_true]

-- The first character says what sort of value it is.
theorem readValue_minus (fuel room : Nat) (rest : List Char) :
    readValue (fuel + 1) room ('-' :: rest)
      = (readNumber true rest).map fun read => (.number read.1, read.2) := by
  rw [readValue]
  rfl

theorem readValue_quote (fuel room : Nat) (rest : List Char) :
    readValue (fuel + 1) room ('"' :: rest)
      = (readText rest).map fun read => (.text read.1, read.2) := by
  rw [readValue]
  rfl

/-- An array takes up one level of nesting. -/
theorem readValue_bracket (fuel : Nat) {room : Nat} (h : 1 < room) (rest : List Char) :
    readValue (fuel + 1) room ('[' :: rest)
      = (readItems fuel (room - 1) true rest).map fun read => (.array read.1, read.2) := by
  rw [readValue]
  exact if_neg (Nat.not_le_of_lt h)

/-- So does an object. -/
theorem readValue_brace (fuel : Nat) {room : Nat} (h : 1 < room) (rest : List Char) :
    readValue (fuel + 1) room ('{' :: rest)
      = (readFields fuel (room - 1) true rest).map fun read => (.object read.1, read.2) := by
  rw [readValue]
  exact if_neg (Nat.not_le_of_lt h)

/-- A number is read back if the text behind it does not go on with it. -/
theorem readValue_number {number : JsonNumber} (h : number.Legible) (fuel room : Nat)
    {rest : List Char} (hrest : EndsNumber rest) :
    readValue (fuel + 1) room (number.toText ++ rest) = .ok (.number number, rest) := by
  cases number with
  | natural n =>
      rcases decimal_eq_cons n with ⟨c, digits, hdecimal, hc, _⟩
      have hread := readNumber_decimal false h hrest
      rw [JsonNumber.toText]
      rw [hdecimal, List.cons_append] at hread ⊢
      rw [readValue_digit hc, hread]
      rfl
  | negative n =>
      rcases h with ⟨hzero, hbound⟩
      -- The numeral is read without its sign, which then decides what number it is.
      have hnumber : wholeNumber true n = .negative n := by
        have hfits : (n = 0 || 9223372036854775808 < n) = false := by
          simp only [Bool.or_eq_false_iff, decide_eq_false_iff_not]
          omega
        simp only [wholeNumber, Bool.not_true, Bool.false_eq_true, if_false, hfits]
      have hread := readNumber_decimal true (n := n) (by rw [maxWhole]; omega) hrest
      rw [hnumber] at hread
      rw [JsonNumber.toText, List.cons_append, readValue_minus, hread]
      rfl
  | float x => exact h.elim

/-- A string is read back, whatever is behind it. -/
theorem readValue_text (fuel room : Nat) (text rest : List Char) :
    readValue (fuel + 1) room (quotedText text ++ rest) = .ok (.text text, rest) := by
  rw [quotedText, List.cons_append, List.cons_append, List.append_assoc, List.singleton_append,
    readValue_quote, readText_escaped]
  rfl

section Items

variable {fuel room : Nat} {c : Char} {text behind rest : List Char} {item : Json}
  {items : List Json}

/-- The first item of an array is read as any other is behind its comma. -/
theorem readItems_first (hc : isJsonSpace c = false) (hne : c ≠ ']') (depth : Nat) :
    readItems (fuel + 1) room true (newLine depth ++ c :: text)
      = readItems (fuel + 1) room false (',' :: (newLine depth ++ c :: text)) := by
  rw [readItems, readItems, skipJsonSpace_newLine hc, skipJsonSpace_of_not (by decide)]
  simp only [Char.reduceEq, Bool.false_eq_true, if_false, if_true, skipJsonSpace_newLine hc,
    if_neg hne]

/-- One item behind a comma, and all the others behind that. -/
theorem readItems_item (hc : isJsonSpace c = false) (hne : c ≠ ']')
    (hitem : readValue fuel room (c :: text) = .ok (item, behind))
    (hitems : readItems fuel room false behind = .ok (items, rest)) (depth : Nat) :
    readItems (fuel + 1) room false (',' :: (newLine depth ++ c :: text))
      = .ok (item :: items, rest) := by
  rw [← readItems_first hc hne, readItems, skipJsonSpace_newLine hc]
  simp only [if_neg hne, if_true, hitem, bind, Except.bind, hitems]

/-- A list of items ends with its bracket, be there items or not. -/
theorem readItems_end (fuel room : Nat) (first : Bool) (depth : Nat) (rest : List Char) :
    readItems (fuel + 1) room first (newLine depth ++ ']' :: rest) = .ok ([], rest) := by
  rw [readItems, skipJsonSpace_newLine (by decide)]
  rfl

end Items

section Fields

variable {fuel room : Nat} {text behind rest : List Char} {value : Json}
  {fields : List (List Char × Json)}

-- The space behind a colon is passed over.
theorem readValue_space (fuel room : Nat) (text : List Char) :
    readValue (fuel + 1) room (' ' :: text) = readValue (fuel + 1) room text := by
  rw [readValue, readValue]
  rfl

/-- The first field of an object is read as any other is behind its comma. -/
theorem readFields_first (fuel room depth : Nat) (text : List Char) :
    readFields (fuel + 1) room true (newLine depth ++ '"' :: text)
      = readFields (fuel + 1) room false (',' :: (newLine depth ++ '"' :: text)) := by
  have hquote : isJsonSpace '"' = false := by decide
  rw [readFields, readFields, skipJsonSpace_newLine hquote, skipJsonSpace_of_not (by decide)]
  simp only [Char.reduceEq, Bool.false_eq_true, if_false, if_true, skipJsonSpace_newLine hquote]

/-- One field behind a comma, and all the others behind that. -/
theorem readFields_field (hvalue : readValue (fuel + 1) room text = .ok (value, behind))
    (hfields : readFields (fuel + 1) room false behind = .ok (fields, rest)) (depth : Nat)
    (name : List Char) :
    readFields (fuel + 3) room false (',' :: (newLine depth ++ '"' ::
        (name.flatMap escapedChar ++ '"' :: ':' :: ' ' :: text)))
      = .ok ((name, value) :: fields, rest) := by
  rw [← readFields_first, readFields, skipJsonSpace_newLine (by decide)]
  simp only [Char.reduceEq, if_false, if_true]
  rw [readField, readText_escaped]
  simp only [bind, Except.bind, skipJsonSpace_of_not (show isJsonSpace ':' = false by decide),
    if_true, readValue_space, hvalue, hfields]

/-- A list of fields ends with its brace, be there fields or not. -/
theorem readFields_end (fuel room : Nat) (first : Bool) (depth : Nat) (rest : List Char) :
    readFields (fuel + 1) room first (newLine depth ++ '}' :: rest) = .ok ([], rest) := by
  rw [readFields, skipJsonSpace_newLine (by decide)]
  rfl

end Fields

/-- A number that is an item ends, be it the last one or not. -/
theorem endsNumber_indentedItems (depth outer : Nat) (items : List Json) (rest : List Char) :
    EndsNumber (Json.indentedItems depth items ++ (newLine outer ++ rest)) := by
  cases items with
  | nil => exact endsNumber_newLine outer rest
  | cons => exact endsNumber_comma _

/-- So does a number in a field. -/
theorem endsNumber_indentedFields (depth outer : Nat) (fields : List (List Char × Json))
    (rest : List Char) :
    EndsNumber (Json.indentedFields depth fields ++ (newLine outer ++ rest)) := by
  cases fields with
  | nil => exact endsNumber_newLine outer rest
  | cons => exact endsNumber_comma _

theorem length_newLine (depth : Nat) : (newLine depth).length = 2 * depth + 1 := by
  rw [newLine, List.length_cons, List.length_replicate]

mutual

/-- A value is read back, and nothing of what stands behind it is taken. -/
theorem readValue_indented (value : Json) {room : Nat} (h : value.Legible room) (depth : Nat)
    (fuel : Nat) (hfuel : (value.indented depth).length ≤ fuel) {rest : List Char}
    (hrest : EndsNumber rest) :
    readValue fuel room (value.indented depth ++ rest) = .ok (value, rest) := by
  rcases indented_eq_cons h depth with ⟨c, text, htext, _, _⟩
  -- There is a character to read, so there is fuel.
  rcases fuel with _ | fuel
  · rw [htext] at hfuel
    exact absurd hfuel (Nat.not_succ_le_zero _)
  cases value with
  | null =>
      rw [readValue]
      rfl
  | bool value =>
      rw [readValue]
      cases value with
      | false => rfl
      | true => rfl
  | number number => exact readValue_number h fuel room hrest
  | text text => exact readValue_text fuel room text rest
  | array items =>
      rw [Json.Legible] at h
      rcases items with _ | ⟨item, items⟩
      · rcases fuel with _ | fuel
        · simp only [Json.indented, List.length_cons, List.length_nil] at hfuel
          omega
        · rw [Json.indented, List.cons_append, readValue_bracket _ h.1, readItems]
          rfl
      · -- The first item has no comma before it, the others are read behind it.
        have hread := readItems_indentedItems (item :: items) h.2 (depth + 1) depth fuel
          (by simpa only [Json.indented, Json.indentedItems, List.cons_append, List.append_assoc,
            List.length_cons] using hfuel) rest
        rcases indented_eq_cons h.2.1 (depth + 1) with ⟨c, text, htext, hc, hne⟩
        simp only [Json.indented, List.cons_append, List.append_assoc, List.length_cons,
          List.length_append, length_newLine] at hfuel
        rcases fuel with _ | fuel
        · omega
        rw [Json.indented, List.cons_append, List.cons_append]
        simp only [Json.indentedItems, htext, List.cons_append, List.append_assoc] at hread ⊢
        rw [readValue_bracket _ h.1, List.nil_append, readItems_first hc hne, hread]
        rfl
  | object fields =>
      rw [Json.Legible] at h
      rcases fields with _ | ⟨⟨name, value⟩, fields⟩
      · rcases fuel with _ | fuel
        · simp only [Json.indented, List.length_cons, List.length_nil] at hfuel
          omega
        · rw [Json.indented, List.cons_append, readValue_brace _ h.1, readFields]
          rfl
      · -- So it is with the first field.
        have hread := readFields_indentedFields ((name, value) :: fields) h.2 (depth + 1) depth
          fuel (by simpa only [Json.indented, Json.indentedFields, List.cons_append,
            List.append_assoc, List.length_cons] using hfuel) rest
        simp only [Json.indented, List.cons_append, List.append_assoc, List.length_cons,
          List.length_append, length_newLine] at hfuel
        rcases fuel with _ | fuel
        · omega
        rw [Json.indented, List.cons_append, List.cons_append]
        simp only [Json.indentedFields, quotedText, List.cons_append, List.append_assoc,
          List.nil_append] at hread ⊢
        rw [readValue_brace _ h.1, readFields_first, hread]
        rfl

/-- Items behind the first of an array are read back, and so is the end of the array. -/
theorem readItems_indentedItems (items : List Json) {room : Nat}
    (h : Json.LegibleItems room items) (depth outer fuel : Nat)
    (hfuel : (Json.indentedItems depth items ++ (newLine outer ++ [']'])).length ≤ fuel + 1)
    (rest : List Char) :
    readItems fuel room false (Json.indentedItems depth items ++ (newLine outer ++ ']' :: rest))
      = .ok (items, rest) := by
  cases items with
  | nil =>
      rcases fuel with _ | fuel
      · simp only [Json.indentedItems, List.nil_append, List.length_append, length_newLine,
          List.length_singleton] at hfuel
        omega
      · exact readItems_end fuel room false outer rest
  | cons item items =>
      rcases indented_eq_cons h.1 depth with ⟨c, text, htext, hc, hne⟩
      simp only [Json.indentedItems, List.cons_append, List.append_assoc, List.length_cons,
        List.length_append, length_newLine, List.length_nil] at hfuel
      rcases fuel with _ | fuel
      · omega
      -- Behind the item comes a comma or a line end, so a number ends with it.
      have hitem := readValue_indented item h.1 depth fuel (by omega)
        (endsNumber_indentedItems depth outer items (']' :: rest))
      have hitems := readItems_indentedItems items h.2 depth outer fuel
        (by simp only [List.length_append, length_newLine, List.length_singleton]; omega) rest
      rw [htext, List.cons_append] at hitem
      have hread := readItems_item hc hne hitem hitems depth
      rw [Json.indentedItems, htext]
      simpa only [List.append_assoc, List.cons_append] using hread

/-- Fields behind the first of an object are read back, and so is the end of the object. -/
theorem readFields_indentedFields (fields : List (List Char × Json)) {room : Nat}
    (h : Json.LegibleFields room fields) (depth outer fuel : Nat)
    (hfuel : (Json.indentedFields depth fields ++ (newLine outer ++ ['}'])).length ≤ fuel + 1)
    (rest : List Char) :
    readFields fuel room false
        (Json.indentedFields depth fields ++ (newLine outer ++ '}' :: rest))
      = .ok (fields, rest) := by
  cases fields with
  | nil =>
      -- A field has two quotation marks and a colon besides, which leaves fuel for its value.
      rcases fuel with _ | fuel
      · simp only [Json.indentedFields, List.nil_append, List.length_append, length_newLine,
          List.length_singleton] at hfuel
        omega
      · exact readFields_end fuel room false outer rest
  | cons field fields =>
      rcases field with ⟨name, value⟩
      simp only [Json.indentedFields, quotedText, List.cons_append, List.append_assoc,
        List.nil_append, List.length_cons, List.length_append, length_newLine,
        List.length_nil] at hfuel
      rcases fuel with _ | _ | _ | fuel
      iterate 3 omega
      have hvalue := readValue_indented value h.1 depth (fuel + 1) (by omega)
        (endsNumber_indentedFields depth outer fields ('}' :: rest))
      have hfields := readFields_indentedFields fields h.2 depth outer (fuel + 1)
        (by simp only [List.length_append, length_newLine, List.length_singleton]; omega) rest
      have hread := readFields_field hvalue hfields depth name
      rw [Json.indentedFields, quotedText]
      simpa only [List.append_assoc, List.cons_append, List.nil_append] using hread

end

/-! ## Documents -/

/-- The text that is written for a value is a document that holds the value. -/
theorem readJson_indented {value : Json} (h : value.Legible maxJsonDepth) :
    readJson (value.indented 0) = .ok value := by
  have hends : EndsNumber [] := fun c hc => absurd hc (Option.not_mem_none c)
  have hread := readValue_indented value h 0 (4 * (value.indented 0).length + 4) (by omega) hends
  rw [List.append_nil] at hread
  simp only [readJson, hread]
  rfl

end TagNesting
