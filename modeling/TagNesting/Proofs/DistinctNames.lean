import Mathlib.Data.List.Nodup
import TagNesting.Proofs.LoadedSettings
import TagNesting.Proofs.TakenArguments

/-!
# Distinct Names

No table of settings has two entries of one name, whichever sort of file it comes from. A
TOML document that names an entry twice is refused, and everything that its statements do to
a table is to put one entry into it, in the place of the one that has the name if there is
one. A JSON object may have several fields of one name, and then the last of them counts;
what the table has for a name is what `field?` finds.

So if no name of a source is a path, what begins at a name in it is one entry or none, the
one that a look-up finds.

## Main definitions

* `putNamed`: An entry put into a list of entries with names.
* `IsPathless`: A name without the marks by which a path goes on.
* `Toml.Puts`: A table differs from another by one entry at most.

## Theorems

* `nodup_readToml`: The names of a TOML document are distinct.
* `nodup_ofJsonFields`: So are those of the table that a JSON object makes.
* `get?_ofJsonFields`: What this table has for a name.
* `fieldsAt_eq_lookup`: What begins at a name in a table without paths.
-/

namespace TagNesting

/-- The same entries with another one for a name, which comes last if the name is new. -/
def putNamed {α : Type} (name : List Char) (a : α) :
    List (List Char × α) → List (List Char × α)
  | [] => [(name, a)]
  | (other, present) :: rest =>
      if other = name then (name, a) :: rest else (other, present) :: putNamed name a rest

/-- A name without the marks by which a path goes on, a plain identifier for one. -/
def IsPathless (name : List Char) : Prop := '.' ∉ name ∧ '[' ∉ name

instance (name : List Char) : Decidable (IsPathless name) :=
  inferInstanceAs (Decidable (_ ∧ _))

/-! ## Entries that are put into a table -/

section Entries

variable {α : Type} {fields : List (List Char × α)}

/-- An entry that is put into a table brings its name in at the end, unless it is there. -/
theorem names_putNamed (name : List Char) (a : α) (fields : List (List Char × α)) :
    (putNamed name a fields).map Prod.fst
      = if name ∈ fields.map Prod.fst then fields.map Prod.fst
        else fields.map Prod.fst ++ [name] := by
  induction fields with
  | nil => rfl
  | cons field fields ih =>
      rcases field with ⟨other, present⟩
      rw [putNamed, List.map_cons]
      by_cases hname : other = name
      · have hmem : name ∈ other :: fields.map Prod.fst := hname ▸ List.mem_cons_self
        rw [if_pos hname, if_pos hmem, List.map_cons, hname]
      · have hmem : name ∈ other :: fields.map Prod.fst ↔ name ∈ fields.map Prod.fst := by
          rw [List.mem_cons, or_iff_right fun h => hname h.symm]
        rw [if_neg hname, List.map_cons, ih]
        by_cases hrest : name ∈ fields.map Prod.fst
        · rw [if_pos hrest, if_pos (hmem.mpr hrest)]
        · rw [if_neg hrest, if_neg fun h => hrest (hmem.mp h), List.cons_append]

/-- So distinct names stay distinct. -/
theorem nodup_putNamed (h : (fields.map Prod.fst).Nodup) (name : List Char) (a : α) :
    ((putNamed name a fields).map Prod.fst).Nodup := by
  rw [names_putNamed]
  by_cases hname : name ∈ fields.map Prod.fst
  · rw [if_pos hname]
    exact h
  · rw [if_neg hname, ← List.concat_eq_append]
    exact h.concat hname

theorem rootName_of_isPathless {name : List Char} (h : IsPathless name) : rootName name = name := by
  rw [rootName, readPath?]
  have hsplit : name.takeWhile isPathChar ++ name.dropWhile isPathChar = name :=
    List.takeWhile_append_dropWhile
  by_cases hfirst : (name.takeWhile isPathChar).isEmpty = true
  · rw [if_pos hfirst]
  · rw [if_neg hfirst]
    rcases hrest : name.dropWhile isPathChar with _ | ⟨c, rest⟩
    · rw [hrest, List.append_nil] at hsplit
      cases name with
      | nil => rfl
      | cons => exact hsplit
    · have hmem : c ∈ name := by
        rw [← hsplit, hrest]
        exact List.mem_append_right _ List.mem_cons_self
      -- Behind the first name a path goes on with one of the two marks.
      have hdot : c ≠ '.' := fun hc => h.1 (hc ▸ hmem)
      have hbracket : c ≠ '[' := fun hc => h.2 (hc ▸ hmem)
      have hsteps : readSteps? name.length (c :: rest) = none := by
        cases name.length with
        | zero => rfl
        | succ fuel =>
            rw [readSteps?]
            · exact List.cons_ne_nil c rest
            · exact fun behind heq => hdot (List.cons.inj heq).1
            · exact fun behind heq => hbracket (List.cons.inj heq).1
      rw [hsteps]
      rfl

/-- Where names are distinct and none is a path, a name has the entry that a look-up finds. -/
theorem fieldsAt_eq_lookup (hnodup : (fields.map Prod.fst).Nodup)
    (hpaths : ∀ field ∈ fields, IsPathless field.1) (name : List Char) :
    fieldsAt name fields = ((fields.lookup name).map fun a => (name, a)).toList := by
  induction fields with
  | nil => rfl
  | cons field fields ih =>
      rcases field with ⟨other, a⟩
      rw [List.map_cons, List.nodup_cons] at hnodup
      rw [List.forall_mem_cons] at hpaths
      have hroot : rootName other = other := rootName_of_isPathless hpaths.1
      have ih := ih hnodup.2 hpaths.2
      rw [fieldsAt, List.filter_cons, ← fieldsAt, List.lookup_cons, ih, hroot]
      by_cases hname : other = name
      · -- The name comes once, so nothing further on is found under it.
        have hrest : fields.lookup name = none := by
          rw [List.lookup_eq_none_iff]
          intro field hfield
          have hmem : field.1 ∈ fields.map Prod.fst := List.mem_map_of_mem hfield
          exact bne_iff_ne.mpr fun h => hnodup.1 ((hname.trans h).symm ▸ hmem)
        simp only [hname, decide_true, if_true, beq_self_eq_true, hrest]
        rfl
      · have hne : (name == other) = false := beq_eq_false_iff_ne.mpr fun h => hname h.symm
        simp only [hname, decide_false, Bool.false_eq_true, if_false, hne]

end Entries

/-! ## Tables from JSON -/

-- Tables of data and tables of TOML are put into in one and the same way.
theorem put_eq_putNamed (name : List Char) (datum : Datum) (fields : Fields) :
    fields.put name datum = putNamed name datum fields := by
  induction fields with
  | nil => rfl
  | cons field fields ih => rw [Fields.put, putNamed, ih]

-- What a table has for a name is what a look-up in the list of its fields finds.
theorem get?_eq_lookup (fields : Fields) (name : List Char) :
    fields.get? name = fields.lookup name := by
  induction fields with
  | nil => rfl
  | cons field fields ih =>
      rw [get?_cons, List.lookup_cons, ih]
      by_cases hname : field.1 = name
      · rw [if_pos hname, hname, beq_self_eq_true]
      · have hne : (name == field.1) = false := beq_eq_false_iff_ne.mpr fun h => hname h.symm
        rw [if_neg hname, hne]

/-- A field counts unless a later one has its name. -/
theorem field?_cons (name other : List Char) (value : Json) (fields : List (List Char × Json)) :
    (Json.object ((other, value) :: fields)).field? name
      = ((Json.object fields).field? name).or (if other = name then some value else none) := by
  rw [Json.field?, Json.field?, List.reverse_cons, List.find?_append, Option.map_or,
    List.find?_singleton]
  by_cases hname : other = name
  · rw [if_pos hname, if_pos (beq_iff_eq.mpr hname)]
    rfl
  · rw [if_neg hname, if_neg fun h => hname (beq_iff_eq.mp h)]
    rfl

/-- The table that JSON fields make has for a name what the last field of the name is. -/
theorem get?_ofJsonFields (fields : Fields) (new : List (List Char × Json)) (name : List Char) :
    (Datum.ofJsonFields fields new).get? name
      = (((Json.object new).field? name).map Datum.ofJson).or (fields.get? name) := by
  induction new generalizing fields with
  | nil =>
      rw [Datum.ofJsonFields]
      rfl
  | cons field new ih =>
      rcases field with ⟨other, value⟩
      rw [Datum.ofJsonFields, ih, field?_cons, get?_put, Option.map_or, Option.or_assoc]
      by_cases hname : other = name
      · rw [if_pos hname, if_pos hname]
        rfl
      · rw [if_neg hname, if_neg hname]
        rfl

/-- The names of the table that a JSON object makes are distinct, whatever those of its fields are.
    -/
theorem nodup_ofJsonFields {fields : Fields} (h : (fields.map Prod.fst).Nodup)
    (new : List (List Char × Json)) :
    ((Datum.ofJsonFields fields new).map Prod.fst).Nodup := by
  induction new generalizing fields with
  | nil => exact h
  | cons field new ih =>
      rw [Datum.ofJsonFields, put_eq_putNamed]
      exact ih (nodup_putNamed h field.1 _)

/-- Such a table has no other names than the object. -/
theorem mem_names_ofJsonFields {fields : Fields} {new : List (List Char × Json)}
    {name : List Char} (h : name ∈ (Datum.ofJsonFields fields new).map Prod.fst) :
    name ∈ fields.map Prod.fst ∨ name ∈ new.map Prod.fst := by
  induction new generalizing fields with
  | nil => exact Or.inl h
  | cons field new ih =>
      rw [Datum.ofJsonFields, put_eq_putNamed] at h
      rw [List.map_cons, List.mem_cons]
      rcases ih h with hput | hnew
      · rw [names_putNamed] at hput
        split at hput
        · exact Or.inl hput
        · rw [List.mem_append, List.mem_singleton] at hput
          rcases hput with hold | hnew
          · exact Or.inl hold
          · exact Or.inr (Or.inl hnew)
      · exact Or.inr (Or.inr hnew)

/-! ## Tables from TOML -/

namespace Toml

/-- A table is another one, or that with one entry put into it. -/
def Puts (entries entries' : Entries) : Prop :=
  entries' = entries ∨ ∃ name node, entries' = entries.put name node

variable {entries entries' : Entries}

theorem Entries.put_eq_putNamed (name : List Char) (node : Node) (entries : Entries) :
    entries.put name node = putNamed name node entries := by
  induction entries with
  | nil => rfl
  | cons entry entries ih => rw [Entries.put, putNamed, ih]

/-- A change of one entry at most keeps names distinct. -/
theorem Puts.nodup (h : Puts entries entries') (hnodup : (entries.map Prod.fst).Nodup) :
    (entries'.map Prod.fst).Nodup := by
  rcases h with rfl | ⟨name, node, rfl⟩
  · exact hnodup
  · rw [Entries.put_eq_putNamed]
    exact nodup_putNamed hnodup name node

/-- A value that a statement sets is one entry, below which there may be others. -/
theorem puts_of_addValue {value : Value} {standing : Standing} {within : Bool} {keys : List Key}
    (h : addValue value standing within keys entries = .ok entries') : Puts entries entries' := by
  rcases keys with _ | ⟨key, _ | ⟨next, rest⟩⟩
  · rw [addValue] at h
    exact Or.inl (Except.ok.inj h).symm
  · rw [addValue] at h
    split at h
    · cases h
    · exact Or.inr ⟨key.name, _, (Except.ok.inj h).symm⟩
  · rw [addValue] at h
    split at h
    · rcases exists_of_bind_eq_ok h with ⟨inner, -, h⟩
      exact Or.inr ⟨key.name, _, (Except.ok.inj h).symm⟩
    · split at h
      · cases h
      · rcases exists_of_bind_eq_ok h with ⟨inner, -, h⟩
        exact Or.inr ⟨key.name, _, (Except.ok.inj h).symm⟩
    · rcases exists_of_bind_eq_ok h with ⟨items, -, h⟩
      exact Or.inr ⟨key.name, _, (Except.ok.inj h).symm⟩
    · cases h

/-- Along a header, whatever is done at its end comes to one entry of the outermost table. -/
theorem puts_of_alongHeader {change : Key → Entries → Except SyntaxError Entries}
    (hchange : ∀ key entries entries', change key entries = .ok entries' → Puts entries entries')
    {keys : List Key} (h : alongHeader change keys entries = .ok entries') :
    Puts entries entries' := by
  rcases keys with _ | ⟨key, _ | ⟨next, rest⟩⟩
  · rw [alongHeader] at h
    exact Or.inl (Except.ok.inj h).symm
  · rw [alongHeader] at h
    exact hchange key entries entries' h
  · rw [alongHeader] at h
    split at h
    · rcases exists_of_bind_eq_ok h with ⟨inner, -, h⟩
      exact Or.inr ⟨key.name, _, (Except.ok.inj h).symm⟩
    · rcases exists_of_bind_eq_ok h with ⟨inner, -, h⟩
      exact Or.inr ⟨key.name, _, (Except.ok.inj h).symm⟩
    · rcases exists_of_bind_eq_ok h with ⟨items, -, h⟩
      exact Or.inr ⟨key.name, _, (Except.ok.inj h).symm⟩
    · cases h

/-- The header of a table makes one table, or puts its name on one. -/
theorem puts_of_addTable (key : Key) (entries entries' : Entries)
    (h : addTable key entries = .ok entries') : Puts entries entries' := by
  rw [addTable] at h
  split at h
  · exact Or.inr ⟨key.name, _, (Except.ok.inj h).symm⟩
  · exact Or.inr ⟨key.name, _, (Except.ok.inj h).symm⟩
  · cases h

/-- The header of an array of tables adds to one list of tables. -/
theorem puts_of_addToTables (key : Key) (entries entries' : Entries)
    (h : addToTables key entries = .ok entries') : Puts entries entries' := by
  rw [addToTables] at h
  split at h
  · exact Or.inr ⟨key.name, _, (Except.ok.inj h).symm⟩
  · exact Or.inr ⟨key.name, _, (Except.ok.inj h).symm⟩
  · cases h

/-- A statement below a header changes the table of the header. -/
theorem puts_of_inTable (change : Entries → Except SyntaxError Entries) (key : Key)
    (entries entries' : Entries) (h : inTable change key entries = .ok entries') :
    Puts entries entries' := by
  rw [inTable] at h
  split at h
  · rcases exists_of_bind_eq_ok h with ⟨inner, -, h⟩
    exact Or.inr ⟨key.name, _, (Except.ok.inj h).symm⟩
  · rcases exists_of_bind_eq_ok h with ⟨items, -, h⟩
    exact Or.inr ⟨key.name, _, (Except.ok.inj h).symm⟩
  · cases h

/-- Statements keep the names of a table distinct. -/
theorem nodup_describe {header : List Key} {statements : List Statement}
    (hnodup : (entries.map Prod.fst).Nodup)
    (h : describe header entries statements = .ok entries') :
    (entries'.map Prod.fst).Nodup := by
  induction statements generalizing header entries with
  | nil =>
      rw [describe] at h
      exact Except.ok.inj h ▸ hnodup
  | cons statement statements ih =>
      cases statement with
      | assign path raw =>
          rw [describe] at h
          rcases exists_of_bind_eq_ok h with ⟨keys, -, h⟩
          rcases exists_of_bind_eq_ok h with ⟨value, -, h⟩
          -- A value goes into the table itself, or into the one that the header leads to.
          dsimp only at h
          split at h
          · rcases exists_of_bind_eq_ok h with ⟨between, hadd, h⟩
            exact ih ((puts_of_addValue hadd).nodup hnodup) h
          · rcases exists_of_bind_eq_ok h with ⟨between, hadd, h⟩
            exact ih ((puts_of_alongHeader (puts_of_inTable _) hadd).nodup hnodup) h
      | table path =>
          rw [describe] at h
          rcases exists_of_bind_eq_ok h with ⟨keys, -, h⟩
          rcases exists_of_bind_eq_ok h with ⟨between, hadd, h⟩
          exact ih ((puts_of_alongHeader puts_of_addTable hadd).nodup hnodup) h
      | tables path =>
          rw [describe] at h
          rcases exists_of_bind_eq_ok h with ⟨keys, -, h⟩
          rcases exists_of_bind_eq_ok h with ⟨between, hadd, h⟩
          exact ih ((puts_of_alongHeader puts_of_addToTables hadd).nodup hnodup) h

-- Fields keep the names of the entries that they are made of.
theorem names_fieldsOf (entries : Entries) :
    (fieldsOf entries).map Prod.fst = entries.map Prod.fst := by
  induction entries with
  | nil => rfl
  | cons entry entries ih => rw [fieldsOf, List.map_cons, List.map_cons, ih]

/-- The names of a TOML document are distinct. -/
theorem nodup_readToml {document : List Char} {table : List (List Char × Value)}
    (h : readToml document = .ok table) : (table.map Prod.fst).Nodup := by
  rcases exists_of_bind_eq_ok h with ⟨statements, -, h⟩
  rcases exists_of_bind_eq_ok h with ⟨entries, hentries, h⟩
  split at h
  · cases h
  · rw [← Except.ok.inj h, names_fieldsOf]
    have hnil : (([] : Entries).map Prod.fst).Nodup := List.nodup_nil
    exact nodup_describe hnil hentries

end Toml

end TagNesting
