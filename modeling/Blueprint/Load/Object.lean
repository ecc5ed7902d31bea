import Blueprint.Load.Property

/-!
# Reading objects, without their links and indexes

A link may lead to an object that stands later in the file, so links and indexes are
read when all objects are known. Until then an object is an `ObjectOutline`: its name,
properties and attributes, and the trees that its links and indexes will be read from.
-/

namespace Blueprint

/-- **An object before its links and indexes are read.** -/
structure ObjectOutline where
  name : String
  properties : List Property
  attributes : AttributeMap
  links : Option Tree
  indexes : Option Tree

namespace Load

inductive ObjectSlot where
  | name
  | properties
  | attributes
  | links
  | indexes
deriving DecidableEq

/-- What an object says. -/
abbrev ObjectSlot.Value : ObjectSlot → Type
  | .name => String
  | .properties => List Property
  | .attributes => AttributeMap
  | .links => Tree
  | .indexes => Tree

/-- The field that fills a slot of an object. -/
def ObjectSlot.text : ObjectSlot → String
  | .name => "name"
  | .properties => "properties"
  | .attributes => "attributes"
  | .links => "links"
  | .indexes => "indexes"

/-- The slot that a field fills. -/
def ObjectSlot.ofText? : String → Option ObjectSlot
  | "name" => some .name
  | "properties" => some .properties
  | "attributes" => some .attributes
  | "links" => some .links
  | "indexes" => some .indexes
  | _ => none

/-- The label of the object at a position. -/
def objectLabel (position : Nat) (name : Option String) : Label :=
  .root .object (.ofName name position)

/-- The form of the object at a position. -/
def objectForm (types : List DataType) (position : Nat) : Form where
  Slot := ObjectSlot
  Value := ObjectSlot.Value
  slot? := ObjectSlot.ofText?
  slotName := ObjectSlot.text
  label d := objectLabel position (d .name)
  read d _ slot raw :=
    let entity := objectLabel position (d .name)
    match slot with
    | .name => identifier raw entity "name"
    | .properties => properties types raw entity
    | .attributes => attributes raw entity
    | .links => .ok raw
    | .indexes => .ok raw

/-- **An object without its links and indexes.** -/
def objectOutline (types : List DataType) (fragment : Tree) (position : Nat) :
    Except LoadError ObjectOutline := do
  let form := objectForm types position
  let d ← form.draft fragment
  let entity := form.label d
  let name ← required (d ObjectSlot.name) entity "name"
  let properties ← requiredList (d ObjectSlot.properties) entity "properties"
  return {
    name
    properties
    attributes := (d ObjectSlot.attributes).getD .empty
    links := d ObjectSlot.links
    indexes := d ObjectSlot.indexes }

/-- The object at a position, after others of other names. -/
def nextObject (types : List DataType) (project : Label) (done : List ObjectOutline)
    (fragment : Tree) (position : Nat) : Except LoadError ObjectOutline := do
  let object ← objectOutline types fragment position
  if done.any fun o => o.name == object.name then
    .error (.duplicateDefinition project (namedField .object object.name))
  else .ok object

/-- **The objects of a project**, each name once. -/
def objectOutlines (types : List DataType) (raw : Tree) (project : Label) :
    Except LoadError (List ObjectOutline) := do
  eachAfter (nextObject types project) (← items raw project "objects")

end Load

end Blueprint
