import Blueprint.Load.Form

/-!
# Reading data types

A definition declares enumerations: a name that no other type has, the word
`enumeration`, and at least one value. A value is a text, or a mapping whose only field
`value` is one, and comes once.
-/

namespace Blueprint

namespace Load

/-! ### Values -/

/-- The form of a value written as a mapping. -/
def valueForm (entity : Label) : Form where
  Slot := Unit
  Value _ := String
  slot? key := if key = "value" then some () else none
  slotName _ := "value"
  label _ := entity
  read _ _ _ raw := text raw entity "value"

/-- A value, in either notation. -/
def enumerationValue (item : Tree) (entity : Label) : Except LoadError String :=
  match item with
  | .mapping entries => do
    let d ← (valueForm entity).enterAll entries
    required (d ()) entity "value"
  | item => text item entity "value"

/-- The value at a position, after others. -/
def nextValue (owner : Label) (done : List String) (item : Tree) (position : Nat) :
    Except LoadError String := do
  let value ← enumerationValue item (owner.within .value (.numbered position))
  if done.contains value then .error (.duplicateDefinition owner (namedField .value value))
  else .ok value

/-- **The values of an enumeration**, each of them once. -/
def enumerationValues (raw : Tree) (owner : Label) : Except LoadError (List String) := do
  eachAfter (nextValue owner) (← items raw owner "values")

/-! ### Types -/

/-- The kind of a declared type, for which there is one word. -/
def dataTypeKind (raw : Tree) (entity : Label) : Except LoadError DataTypeKind := do
  if (← text raw entity "type") = "enumeration" then .ok .enumeration
  else .error (.invalidShape entity "type" .dataTypeKind)

inductive DataTypeSlot where
  | name
  | type
  | values
deriving DecidableEq

/-- What the declaration of a type says. -/
abbrev DataTypeSlot.Value : DataTypeSlot → Type
  | .name => String
  | .type => DataTypeKind
  | .values => List String

/-- The label of the type at a position. -/
def dataTypeLabel (position : Nat) (name : Option String) : Label :=
  .root .dataType (.ofName name position)

/-- The form of the type at a position. -/
def dataTypeForm (position : Nat) : Form where
  Slot := DataTypeSlot
  Value := DataTypeSlot.Value
  slot? key :=
    match key with
    | "name" => some .name
    | "type" => some .type
    | "values" => some .values
    | _ => none
  slotName slot :=
    match slot with
    | .name => "name"
    | .type => "type"
    | .values => "values"
  label d := dataTypeLabel position (d .name)
  read d _ slot raw :=
    let entity := dataTypeLabel position (d .name)
    match slot with
    | .name => identifier raw entity "name"
    | .type => dataTypeKind raw entity
    | .values => enumerationValues raw entity

/-- The complaint about a name that a type has already. -/
def takenTypeName (previous : DataType) (name : String) : LoadError :=
  .duplicateDefinition (.root (if previous.internal then .builtins else .project) .only)
    (namedField .dataType name)

/-- **The declaration of a type**, after the types that exist already. -/
def dataType (existing : List DataType) (fragment : Tree) (position : Nat) :
    Except LoadError DataType := do
  let form := dataTypeForm position
  let d ← form.draft fragment
  let name : String ← required (d DataTypeSlot.name) (form.label d) "name"
  let kind ← required (d DataTypeSlot.type) (form.label d) "type"
  let values ← requiredList (d DataTypeSlot.values) (form.label d) "values"
  match existing.find? fun t => t.name == name with
  | some previous => .error (takenTypeName previous name)
  | none => return ⟨name, kind, values, false⟩

/-- The declared types, in order; each name is new when its turn comes. -/
def dataTypes (raw : Tree) (owner : Label) : Except LoadError (List DataType) := do
  eachAfter (fun done => dataType (builtinDataTypes ++ done)) (← items raw owner "datatypes")

end Load

end Blueprint
