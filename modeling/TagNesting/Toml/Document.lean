import TagNesting.Toml.Scalar

/-!
# TOML Documents

The table that the statements of a document describe. Each statement is about a place in
the table so far, and it may only add: nothing that has been said can be said again or
changed.

What may be added to depends on how a table came to be. One that headers have only passed
through can get a header of its own, once. One that dotted keys have made can be extended
by further dotted keys from the same table, and by headers below it. One that has had its
header cannot be reached by dotted keys any more. Inline tables and arrays written as
values are closed.

Of an array of tables, the last table is the one that is meant.

## Main definitions

* `Standing`: How a table came to be.
* `Node`: A part of the table so far.
* `addValue`: A value added where dotted keys lead to.
* `addTable`, `addToTables`: What the two sorts of headers add.
* `readToml`: The table that a document describes.
-/

namespace TagNesting.Toml

/-- A key with its place. -/
structure Key where
  /-- The key. -/
  name : List Char
  /-- The place where it begins. -/
  start : Nat
  /-- The place behind it. -/
  stop : Nat
  deriving DecidableEq, Repr

/-- How a table came to be. -/
inductive Standing where
  /-- A header passes through it. -/
  | passed
  /-- A dotted key passes through it. -/
  | dotted
  /-- It has a header of its own. -/
  | headed
  deriving DecidableEq, Repr

/-- A part of the table so far. -/
inductive Node where
  /-- A value, to which nothing can be added. -/
  | value (value : Value)
  /-- A table. -/
  | table (standing : Standing) (entries : List (List Char × Node))
  /-- An array of tables. -/
  | tables (items : List (List (List Char × Node)))
  deriving Repr

/-- The parts of a table, in the order in which they came up. -/
abbrev Entries : Type := List (List Char × Node)

namespace Entries

/-- The part with a key. -/
def get? (entries : Entries) (name : List Char) : Option Node :=
  (List.find? (fun entry => entry.1 == name) entries).map (·.2)

/-- The same table with another part for a key, which comes last if the key is new. -/
def put (name : List Char) (node : Node) : Entries → Entries
  | [] => [(name, node)]
  | (other, part) :: rest =>
      if other = name then (name, node) :: rest else (other, part) :: put name node rest

end Entries

/-- A key has been given before. -/
def repeated {α : Type} (key : Key) : Except SyntaxError α :=
  .error ⟨.duplicateKey, key.start, key.stop⟩

/-- A key leads into something closed. -/
def closed {α : Type} (key : Key) : Except SyntaxError α :=
  .error ⟨.closedValue, key.start, key.stop⟩

/-- A change of the last table of an array of tables. -/
def inLast (change : Entries → Except SyntaxError Entries) :
    List Entries → Except SyntaxError (List Entries)
  | [] => .ok []
  | [entries] => do .ok [← change entries]
  | entries :: rest => do .ok (entries :: (← inLast change rest))

/-- A value added to a table where dotted keys lead to. The table's standing is given, and
    whether dotted keys have led to it already. -/
def addValue (value : Value) : (standing : Standing) → (within : Bool) → List Key → Entries →
    Except SyntaxError Entries
  | _, _, [], entries => .ok entries
  | standing, within, [key], entries =>
      if (within && standing != .dotted) || (entries.get? key.name).isSome then repeated key
      else .ok (entries.put key.name (.value value))
  | _, _, key :: next :: rest, entries =>
      match entries.get? key.name with
      | none => do
          let inner ← addValue value .dotted true (next :: rest) []
          .ok (entries.put key.name (.table .dotted inner))
      | some (.table standing inner) =>
          if standing = .headed then repeated key
          else do
            let inner' ← addValue value standing true (next :: rest) inner
            .ok (entries.put key.name (.table standing inner'))
      | some (.tables items) => do
          let items' ← inLast (addValue value .headed true (next :: rest)) items
          .ok (entries.put key.name (.tables items'))
      | some (.value _) => closed key

/-- A change of the part that the keys of a header lead to. Tables that are not there yet are
    made on the way; the last key is for `change` to deal with. -/
def alongHeader (change : Key → Entries → Except SyntaxError Entries) : List Key → Entries →
    Except SyntaxError Entries
  | [], entries => .ok entries
  | [key], entries => change key entries
  | key :: next :: rest, entries =>
      match entries.get? key.name with
      | none => do
          let inner ← alongHeader change (next :: rest) []
          .ok (entries.put key.name (.table .passed inner))
      | some (.table standing inner) => do
          let inner' ← alongHeader change (next :: rest) inner
          .ok (entries.put key.name (.table standing inner'))
      | some (.tables items) => do
          let items' ← inLast (alongHeader change (next :: rest)) items
          .ok (entries.put key.name (.tables items'))
      | some (.value _) => closed key

/-- What the header of a table adds: an empty table, or its name on one passed through. -/
def addTable (key : Key) (entries : Entries) : Except SyntaxError Entries :=
  match entries.get? key.name with
  | none => .ok (entries.put key.name (.table .headed []))
  | some (.table .passed inner) => .ok (entries.put key.name (.table .headed inner))
  | some _ => repeated key

/-- What the header of an array of tables adds: an empty table at its end. -/
def addToTables (key : Key) (entries : Entries) : Except SyntaxError Entries :=
  match entries.get? key.name with
  | none => .ok (entries.put key.name (.tables [[]]))
  | some (.tables items) => .ok (entries.put key.name (.tables (items ++ [[]])))
  | some _ => repeated key

/-- A change of the table that a header is about. -/
def inTable (change : Entries → Except SyntaxError Entries) (key : Key) (entries : Entries) :
    Except SyntaxError Entries :=
  match entries.get? key.name with
  | some (.table standing inner) => do
      .ok (entries.put key.name (.table standing (← change inner)))
  | some (.tables items) => do
      .ok (entries.put key.name (.tables (← inLast change items)))
  | _ => closed key

mutual

/-- A part of a finished table as a value. -/
def Node.toValue : Node → Value
  | .value value => value
  | .table _ entries => .table (fieldsOf entries)
  | .tables items => .array (tablesOf items)

/-- The parts of a finished table as fields. -/
def fieldsOf : List (List Char × Node) → List (List Char × Value)
  | [] => []
  | (name, node) :: rest => (name, node.toValue) :: fieldsOf rest

/-- The tables of a finished array of tables as values. -/
def tablesOf : List (List (List Char × Node)) → List Value
  | [] => []
  | entries :: rest => .table (fieldsOf entries) :: tablesOf rest

end

/-- The keys that tokens are. -/
def keysOf (path : List Token) : Except SyntaxError (List Key) :=
  path.mapM fun token => token.key.map fun name => ⟨name, token.start, token.stop⟩

mutual

/-- The value that a raw one is. -/
def RawValue.value : RawValue → Except SyntaxError Value
  | .scalar token => token.scalar
  | .array items _ _ => (itemValues items).map .array
  | .table fields _ _ => (fieldValues [] fields).map fun entries => .table (fieldsOf entries)

/-- The values that the raw items of an array are. -/
def itemValues : List RawValue → Except SyntaxError (List Value)
  | [] => .ok []
  | item :: rest => do
      let value ← item.value
      let values ← itemValues rest
      .ok (value :: values)

/-- A table with the raw fields of an inline table added to it. -/
def fieldValues (entries : Entries) : List (List Token × RawValue) → Except SyntaxError Entries
  | [] => .ok entries
  | (path, raw) :: rest => do
      let keys ← keysOf path
      let value ← raw.value
      let entries' ← addValue value .headed false keys entries
      fieldValues entries' rest

end

/-- The table that statements describe, added to the one so far. The keys of the header that
    they stand under are given. -/
def describe (header : List Key) (entries : Entries) :
    List Statement → Except SyntaxError Entries
  | [] => .ok entries
  | .assign path raw :: rest => do
      let keys ← keysOf path
      let value ← raw.value
      let add := addValue value .headed false keys
      let entries' ←
        if header.isEmpty then add entries else alongHeader (inTable add) header entries
      describe header entries' rest
  | .table path :: rest => do
      let keys ← keysOf path
      let entries' ← alongHeader addTable keys entries
      describe keys entries' rest
  | .tables path :: rest => do
      let keys ← keysOf path
      let entries' ← alongHeader addToTables keys entries
      describe keys entries' rest

/-- The first number of some statements that is too large to be kept. -/
def rangeFaultIn? (statements : List Statement) : Option SyntaxError :=
  statements.findSome? fun statement =>
    match statement with
    | .assign _ value => value.rangeFault?
    | _ => none

/-- The table that a document describes. -/
def readToml (document : List Char) : Except SyntaxError (List (List Char × Value)) := do
  let statements ← statementsOf document
  let entries ← describe [] [] statements
  match rangeFaultIn? statements with
  | some error => .error error
  | none => .ok (fieldsOf entries)

end TagNesting.Toml
