import Blueprint.Number
import Blueprint.Record

/-!
# TOML documents as tables

A TOML document is a table, built up by its lines one after another. What a line may add
depends on how the tables it goes through came to be: a table that only stands on the way
to another one may still be given its own header, a table made by a dotted key may be
extended by dotted keys only, a table with a header is closed to dotted keys, and one
written between braces is closed to everything. A `Table` remembers its `TableKind`.

Everything here is a walk along a path of keys (`Table.within?`); what happens at its end
is the argument.
-/

namespace Blueprint

namespace Toml

/-- **How a table came to be**: as a step on the way to another one, by a dotted key, by
its header, or between braces. -/
inductive TableKind where
  | implied
  | dotted
  | headed
  | inline
deriving DecidableEq

/-- A path of keys leads through a table of this kind. -/
def TableKind.isOpen (dotted : Bool) : TableKind → Bool
  | .implied => true
  | .dotted => true
  | .headed => !dotted
  | .inline => false

/-- **A value of a document.** The tables of a list with headers of its own can become
more. A number that is not finite has no value. -/
inductive Item where
  | boolean (value : Bool)
  | number (value : Option Number)
  | string (value : String)
  | array (items : List Item)
  | tables (items : List Item)
  | table (kind : TableKind) (entries : List (String × Item))

/-- A table: how it came to be, and its entries. -/
structure Table where
  kind : TableKind
  entries : List (String × Item)

namespace Table

/-- A table as an item. -/
def toItem (t : Table) : Item := .table t.kind t.entries

/-- The item of a key. -/
def get? (t : Table) (key : String) : Option Item :=
  (t.entries.find? fun entry => entry.1 == key).map (·.2)

/-- A table with the item of a key replaced, or added at the end. -/
def put (t : Table) (key : String) (item : Item) : Table :=
  if t.entries.any fun entry => entry.1 == key then
    { t with entries := t.entries.map fun entry =>
        if entry.1 == key then (entry.1, item) else entry }
  else { t with entries := t.entries ++ [(key, item)] }

/-- **A change at the end of a path.** Tables on the way that do not exist are made, and
of a list of tables the last one is meant. -/
def within? (dotted : Bool) (change : Table → Option Table) : List String → Table → Option Table
  | [], t => change t
  | key :: path, t =>
    match t.get? key with
    | none => do
      let inner ← within? dotted change path ⟨if dotted then .dotted else .implied, []⟩
      return t.put key inner.toItem
    | some (.table kind entries) =>
      if kind.isOpen dotted then do
        let inner ← within? dotted change path ⟨kind, entries⟩
        return t.put key inner.toItem
      else none
    | some (.tables items) =>
      match items.getLast? with
      | some (.table kind entries) => do
        let inner ← within? dotted change path ⟨kind, entries⟩
        return t.put key (.tables (items.dropLast ++ [inner.toItem]))
      | _ => none
    | some _ => none

/-- **A key with its value**, at the end of a dotted path that may be empty. A dotted path
must end in a table made by dotted keys, and the key must be new. -/
def insert? (path : List String) (key : String) (item : Item) (t : Table) : Option Table :=
  within? true (fun inner =>
    if decide (inner.kind = .dotted) == path.isEmpty then none
    else if (inner.get? key).isSome then none
    else some (inner.put key item)) path t

/-- **The header of a table.** -/
def openTable? (path : List String) (key : String) (t : Table) : Option Table :=
  within? false (fun parent =>
    match parent.get? key with
    | none => some (parent.put key (.table .headed []))
    | some (.table .implied entries) => some (parent.put key (.table .headed entries))
    | some _ => none) path t

/-- **The header of one more table of a list.** -/
def openListItem? (path : List String) (key : String) (t : Table) : Option Table :=
  within? false (fun parent =>
    match parent.get? key with
    | none => some (parent.put key (.tables [.table .headed []]))
    | some (.tables items) => some (parent.put key (.tables (items ++ [.table .headed []])))
    | some _ => none) path t

end Table

/-! ### Records -/

/-- The fields of a record: entries by name, or items by position, of which those beyond
the fields are passed over. -/
def Item.fields? (names : List String) : Item → Option (List (String × Item))
  | .table _ entries => namedFields? names (entries.map fun entry => (some entry.1, entry.2))
  | .array items => some (names.zip items)
  | .tables items => some (names.zip items)
  | _ => none

/-- The value is a table or a list without anything in it. -/
def Item.isEmpty : Item → Bool
  | .table _ [] => true
  | .array [] => true
  | _ => false

/-- The word of a choice. -/
def Item.choice? : Item → Option String
  | .string s => some s
  | .table _ [(name, item)] => if item.isEmpty then some name else none
  | _ => none

instance : Document Item where
  boolean? item :=
    match item with
    | .boolean b => some b
    | _ => none
  string? item :=
    match item with
    | .string s => some s
    | _ => none
  number? item :=
    match item with
    | .number n => n
    | _ => none
  isNull _ := false
  items? item :=
    match item with
    | .array items => some items
    | .tables items => some items
    | _ => none
  fields? := Item.fields?
  choice? := Item.choice?

end Toml

end Blueprint
