import Blueprint.Load.Attributes

/-!
# Reading properties

A property has a name and a type, which must be among the types known so far. It is
mandatory and not secret unless it says otherwise, and may have a default, a pattern,
bounds and attributes. When both bounds are given the lower one must not lie above the
upper one.
-/

namespace Blueprint

namespace Load

inductive PropertySlot where
  | name
  | type
  | mandatory
  | defaultValue
  | secret
  | pattern
  | minimum
  | maximum
  | attributes
deriving DecidableEq

/-- What a property says; its type is a position among the types. -/
abbrev PropertySlot.Value : PropertySlot → Type
  | .name => String
  | .type => Nat
  | .mandatory => Bool
  | .defaultValue => Scalar
  | .secret => Bool
  | .pattern => String
  | .minimum => Number
  | .maximum => Number
  | .attributes => AttributeMap

/-- The field that fills a slot of a property. -/
def PropertySlot.text : PropertySlot → String
  | .name => "name"
  | .type => "type"
  | .mandatory => "mandatory"
  | .defaultValue => "default"
  | .secret => "secret"
  | .pattern => "pattern"
  | .minimum => "minimum"
  | .maximum => "maximum"
  | .attributes => "attributes"

/-- The slot that a field fills. -/
def PropertySlot.ofText? : String → Option PropertySlot
  | "name" => some .name
  | "type" => some .type
  | "mandatory" => some .mandatory
  | "default" => some .defaultValue
  | "secret" => some .secret
  | "pattern" => some .pattern
  | "minimum" => some .minimum
  | "maximum" => some .maximum
  | "attributes" => some .attributes
  | _ => none

/-- The type of a property, as the position of the first type of that name. -/
def propertyType (types : List DataType) (raw : Tree) (entity : Label) :
    Except LoadError Nat := do
  let name ← text raw entity "type"
  orError (types.findIdx? fun t => t.name == name) (.unknownDataType entity name)

/-- The label of the property at a position. -/
def propertyLabel (object : Label) (position : Nat) (name : Option String) : Label :=
  object.within .property (.ofName name position)

/-- The form of the property at a position. -/
def propertyForm (types : List DataType) (object : Label) (position : Nat) : Form where
  Slot := PropertySlot
  Value := PropertySlot.Value
  slot? := PropertySlot.ofText?
  slotName := PropertySlot.text
  label d := propertyLabel object position (d .name)
  read d _ slot raw :=
    let entity := propertyLabel object position (d .name)
    match slot with
    | .name => identifier raw entity "name"
    | .type => propertyType types raw entity
    | .mandatory => boolean raw entity "mandatory"
    | .defaultValue => scalar raw entity "default"
    | .secret => boolean raw entity "secret"
    | .pattern => text raw entity "pattern"
    | .minimum => number raw entity "minimum"
    | .maximum => number raw entity "maximum"
    | .attributes => attributes raw entity

/-- The lower bound lies above the upper one. -/
def crossed (minimum maximum : Option Number) : Option (Number × Number) :=
  match minimum, maximum with
  | some low, some high => if low.exceeds high then some (low, high) else none
  | _, _ => none

/-- **A property**, not yet known to be the last one. -/
def property (types : List DataType) (object : Label) (fragment : Tree) (position : Nat) :
    Except LoadError Property := do
  let form := propertyForm types object position
  let d ← form.draft fragment
  let entity := form.label d
  let name ← required (d PropertySlot.name) entity "name"
  let type ← required (d PropertySlot.type) entity "type"
  match crossed (d PropertySlot.minimum) (d PropertySlot.maximum) with
  | some (low, high) => .error (.rangeViolation entity low high)
  | none =>
    return {
      name
      dataType := type
      mandatory := (d PropertySlot.mandatory).getD true
      defaultValue := d PropertySlot.defaultValue
      secret := (d PropertySlot.secret).getD false
      pattern := d PropertySlot.pattern
      minimum := d PropertySlot.minimum
      maximum := d PropertySlot.maximum
      attributes := (d PropertySlot.attributes).getD .empty
      isLast := false }

/-- A list whose last item is marked. -/
def markLast {α : Type} (mark : α → α) : List α → List α
  | [] => []
  | [x] => [mark x]
  | x :: rest => x :: markLast mark rest

/-- **The properties of an object**, the last one marked. -/
def properties (types : List DataType) (raw : Tree) (object : Label) :
    Except LoadError (List Property) := do
  let list ← each (property types object) (← items raw object "properties")
  return markLast (fun p => { p with isLast := true }) list

end Load

end Blueprint
