import Blueprint.Json.Node

/-!
# Records in documents

Settings, options and reports are records: values with named fields. A document gives a
record as a mapping, where fields that the record does not have are passed over without
a look at their values, or as a list of the values of its fields in order. No field may
be given twice.

`Document` is what a kind of document offers to a reader of records, and the readers of
single values below are written against it. They say only whether a value can be read,
not what is wrong with it.
-/

namespace Blueprint

/-- **A kind of document that records are read from.** -/
class Document (α : Type) where
  /-- The truth value that a value is. -/
  boolean? : α → Option Bool
  /-- The text that a value is. -/
  string? : α → Option String
  /-- The number that a value is. -/
  number? : α → Option Number
  /-- The value stands for nothing. -/
  isNull : α → Bool
  /-- The items of a list. -/
  items? : α → Option (List α)
  /-- The fields of a record that has fields of these names. -/
  fields? : List String → α → Option (List (String × α))
  /-- The word of a choice, as a text or as a mapping with that word and an empty value. -/
  choice? : α → Option String

/-! ### Fields -/

/-- The fields that a record has, of all those given by name; a name given twice is an
error, and so is one that cannot be read. -/
def namedFields? {α : Type} (names : List String) :
    List (Option String × α) → Option (List (String × α))
  | [] => some []
  | (name, value) :: rest => do
    let name ← name
    let fields ← namedFields? names rest
    if names.contains name then
      if fields.any fun field => field.1 == name then none else some ((name, value) :: fields)
    else some fields

/-- The value of a field, if it is given. -/
def fieldValue? {α : Type} (fields : List (String × α)) (name : String) : Option α :=
  (fields.find? fun field => field.1 == name).map (·.2)

/-- A field that must be given. -/
def readField? {α β : Type} (fields : List (String × α)) (name : String) (read : α → Option β) :
    Option β :=
  (fieldValue? fields name).bind read

/-- A field that has a default. -/
def readFieldOr? {α β : Type} (fields : List (String × α)) (name : String) (default : β)
    (read : α → Option β) : Option β :=
  match fieldValue? fields name with
  | some value => read value
  | none => some default

/-! ### Values -/

/-- A natural number of 64 bits. -/
def word? {α : Type} [Document α] (value : α) : Option UInt64 := do
  return UInt64.ofNat (← (← Document.number? value).toNat?)

/-- A value that may be null. -/
def optional? {α β : Type} [Document α] (read : α → Option β) (value : α) : Option (Option β) :=
  if Document.isNull value then some none else (read value).map some

/-- A list of values. -/
def list? {α β : Type} [Document α] (read : α → Option β) (value : α) : Option (List β) := do
  (← Document.items? value).mapM read

/-! ### JSON -/

namespace Json

/-- The record fields of a node: members by name, or items by position, of which there
may be no more than fields. -/
def Node.fields? (names : List String) : Node → Option (List (String × Node))
  | .object members => namedFields? names members
  | .array items => if items.length ≤ names.length then some (names.zip items) else none
  | _ => none

/-- The word of a choice. -/
def Node.choice? : Node → Option String
  | .string s => s
  | .object [(name, .null)] => name
  | _ => none

instance : Document Node where
  boolean? n :=
    match n with
    | .boolean b => some b
    | _ => none
  string? n :=
    match n with
    | .string s => s
    | _ => none
  number? n :=
    match n with
    | .number l => l.toNumber?
    | _ => none
  isNull n :=
    match n with
    | .null => true
    | _ => false
  items? n :=
    match n with
    | .array items => some items
    | _ => none
  fields? := Node.fields?
  choice? := Node.choice?

end Json

end Blueprint
