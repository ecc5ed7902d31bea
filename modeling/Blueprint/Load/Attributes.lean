import Blueprint.Load.Form

/-!
# Reading attributes

Attributes come in two notations, a mapping from names to values or a list of items
with a `name` and a `value` each. Both give the same map: names are identifiers, string
values are trimmed and not empty, and a name may come once.
-/

namespace Blueprint

namespace Load

/-- The value of an attribute: any scalar, a string without the blanks around it. -/
def attributeValue (raw : Tree) (entity : Label) : Except LoadError Scalar :=
  match raw with
  | .string s =>
    if trim s = "" then .error (.emptyValue entity "value") else .ok (.string (trim s))
  | raw => orError (Scalar.ofTree? raw) (.invalidShape entity "value" .scalar)

/-- An attribute added to those read before it. -/
def addAttribute (owner : Label) (m : AttributeMap) (name : String) (value : Scalar) :
    Except LoadError AttributeMap :=
  orError (m.insert? name value) (.duplicateDefinition owner (namedField .attribute name))

/-! ### An item of a list of attributes -/

inductive AttributeSlot where
  | name
  | value
deriving DecidableEq

/-- What an item of a list of attributes says. -/
abbrev AttributeSlot.Value : AttributeSlot → Type
  | .name => String
  | .value => Scalar

/-- The form of the item at a position. -/
def attributeForm (owner : Label) (position : Nat) : Form where
  Slot := AttributeSlot
  Value := AttributeSlot.Value
  slot? key :=
    match key with
    | "name" => some .name
    | "value" => some .value
    | _ => none
  slotName slot :=
    match slot with
    | .name => "name"
    | .value => "value"
  label d := owner.within .attribute (.ofName (d .name) position)
  read d _ slot raw :=
    let entity := owner.within .attribute (.ofName (d .name) position)
    match slot with
    | .name => identifier raw entity "name"
    | .value => attributeValue raw entity

/-- An item of a list of attributes. -/
def attributeItem (owner : Label) (raw : Tree) (position : Nat) :
    Except LoadError (String × Scalar) := do
  let form := attributeForm owner position
  let d ← form.draft raw
  let name ← required (d AttributeSlot.name) (form.label d) "name"
  let value ← required (d AttributeSlot.value) (form.label d) "value"
  return (name, value)

/-! ### Both notations -/

/-- An entry of a mapping of attributes added to those before it. -/
def addAttributeEntry (owner : Label) (m : AttributeMap) (entry : String × Tree) :
    Except LoadError AttributeMap := do
  let entity := owner.within .attribute (.named entry.1)
  let name ← identifier (.string entry.1) entity "name"
  let value ← attributeValue entry.2 entity
  addAttribute owner m name value

/-- An item of a list of attributes added to those before it. -/
def addAttributeItem (owner : Label) (m : AttributeMap) (item : Tree × Nat) :
    Except LoadError AttributeMap := do
  let (name, value) ← attributeItem owner item.1 item.2
  addAttribute owner m name value

/-- **Attributes in either notation.** -/
def attributes (raw : Tree) (owner : Label) : Except LoadError AttributeMap :=
  match raw with
  | .mapping entries => entries.foldlM (addAttributeEntry owner) .empty
  | .sequence items => (items.zipIdx 1).foldlM (addAttributeItem owner) .empty
  | _ => .error (.invalidShape owner "attributes" .mappingOrSequence)

end Load

end Blueprint
