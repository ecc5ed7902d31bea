import Blueprint.Load.Assembly

/-!
# What a definition says

The project that a definition describes, read off by looking its fields up one by one:
`Blueprint.Reading.project`. Nothing here depends on the order in which the fields of an
entity stand, nothing can fail, and no entity is read in two passes. A field that is
absent, or not of the shape it should have, counts as one of no content; which definitions
have everything in place is the subject of `Blueprint.Proofs.Load.Grammar`, and that
loading such a definition gives this project and no other that of
`Blueprint.Proofs.Load.Acceptance`.

References are positions: a name is looked up among the names declared, with `List.idxOf`,
and stands for the first entity that bears it.
-/

namespace Blueprint

/-! ### Fields of a tree -/

namespace Tree

/-- A string without the blanks around it. -/
def trimmed : Tree → String
  | .string s => trim s
  | _ => ""

/-- The items of a sequence. -/
def items : Tree → List Tree
  | .sequence ts => ts
  | _ => []

/-- What is stored under a key, null when nothing is. -/
def field (t : Tree) (key : String) : Tree := (t.get? key).getD .null

/-- The trimmed string under a key. -/
def textAt (t : Tree) (key : String) : String := (t.field key).trimmed

/-- The items of the sequence under a key. -/
def itemsAt (t : Tree) (key : String) : List Tree := (t.field key).items

/-- The truth value under a key. -/
def booleanAt? (t : Tree) (key : String) : Option Bool := (t.get? key).bind asBoolean?

/-- The number under a key. -/
def numberAt? (t : Tree) (key : String) : Option Number := (t.get? key).bind asNumber?

/-- The scalar under a key, a string with its blanks. -/
def scalarAt? (t : Tree) (key : String) : Option Scalar := (t.get? key).bind Scalar.ofTree?

/-- The name that a fragment declares. -/
def declaredName (t : Tree) : String := t.textAt "name"

/-- The names that the items under a key declare, in order. -/
def namesAt (t : Tree) (key : String) : List String := (t.itemsAt key).map declaredName

section Congruence

variable {t u : Tree} {key : String}

/-! What is read under a key depends on what is found there alone. -/

theorem field_congr (h : u.get? key = t.get? key) : u.field key = t.field key := by
  rw [field, field, h]

theorem textAt_congr (h : u.get? key = t.get? key) : u.textAt key = t.textAt key := by
  rw [textAt, textAt, field_congr h]

theorem itemsAt_congr (h : u.get? key = t.get? key) : u.itemsAt key = t.itemsAt key := by
  rw [itemsAt, itemsAt, field_congr h]

theorem namesAt_congr (h : u.get? key = t.get? key) : u.namesAt key = t.namesAt key := by
  rw [namesAt, namesAt, itemsAt_congr h]

end Congruence

end Tree

namespace Reading

/-! ### Attributes -/

/-- The value of an attribute: a scalar, a string without the blanks around it. -/
def attributeValue : Tree → Scalar
  | .boolean b => .boolean b
  | .number n => .number n
  | t => .string t.trimmed

/-- An attribute written as an item of a list. -/
def attributeItem (t : Tree) : String × Scalar := (t.declaredName, attributeValue (t.field "value"))

/-- **The attributes of either notation**, in order. -/
def attributes : Tree → AttributeMap
  | .mapping entries => ⟨entries.map fun entry => (trim entry.1, attributeValue entry.2)⟩
  | t => ⟨t.items.map attributeItem⟩

/-- The attributes of an entity, none when it declares none. -/
def attributesOf (t : Tree) : AttributeMap := attributes (t.field "attributes")

/-! ### Types, properties and files -/

/-- A value of an enumeration, in either notation. -/
def enumerationValue : Tree → String
  | .mapping entries => (Tree.mapping entries).textAt "value"
  | t => t.trimmed

/-- A declared type, which is an enumeration. -/
def dataType (t : Tree) : DataType :=
  ⟨t.declaredName, .enumeration, (t.itemsAt "values").map enumerationValue, false⟩

/-- **A property**, its type looked up among the names of types. -/
def property (types : List String) (isLast : Bool) (t : Tree) : Property where
  name := t.declaredName
  dataType := types.idxOf (t.textAt "type")
  mandatory := (t.booleanAt? "mandatory").getD true
  defaultValue := t.scalarAt? "default"
  secret := (t.booleanAt? "secret").getD false
  pattern := (t.get? "pattern").map Tree.trimmed
  minimum := t.numberAt? "minimum"
  maximum := t.numberAt? "maximum"
  attributes := attributesOf t
  isLast

/-- The items of a list, each with its position and the news whether it is the last. -/
def marked {α : Type} (read : Nat → Bool → Tree → α) (items : List Tree) : List α :=
  (items.zipIdx 1).map fun (t, position) => read position (position == items.length) t

/-- The properties of an object, the last one marked. -/
def properties (types : List String) (t : Tree) : List Property :=
  marked (fun _ => property types) (t.itemsAt "properties")

/-- How often a file is generated. -/
def fileScope (t : Tree) : FileScope :=
  if t.textAt "scope" = "object" then .object else .project

/-- A file declaration. -/
def file (t : Tree) : OutputFile := ⟨fileScope t, t.textAt "input", t.textAt "output"⟩

/-! ### Links -/

/-- **A link**, its target looked up among the names of objects. -/
def link (objects : List String) (source : Nat) (t : Tree) : Link :=
  ⟨t.declaredName, source, objects.idxOf (t.textAt "target"),
    (t.booleanAt? "mandatory").getD true⟩

/-- The links of an object. -/
def links (objects : List String) (source : Nat) (t : Tree) : List Link :=
  (t.itemsAt "links").map (link objects source)

/-- **The links that name an object as their target**, source by source and each source's
links in order. -/
def reverseLinks (sources : List Tree) (target : String) : List LinkHandle :=
  sources.zipIdx.flatMap fun (source, i) =>
    ((source.itemsAt "links").zipIdx.filter fun (l, _) => l.textAt "target" == target).map
      fun (_, j) => ⟨i, j⟩

/-! ### Indexes -/

/-- What a key refers to, looked up among the properties or the links of its object. -/
def keyReference (object : Nat) (properties links : List String) (t : Tree) : KeyReference :=
  match t.get? "property" with
  | some name => .property ⟨object, properties.idxOf name.trimmed⟩
  | none => .link ⟨object, links.idxOf (t.textAt "link")⟩

/-- A key at its position. -/
def indexKey (object : Nat) (properties links : List String) (position : Nat) (isLast : Bool)
    (t : Tree) : IndexKey :=
  ⟨position, keyReference object properties links t, isLast⟩

/-- **An index** of the object whose properties and links have these names. -/
def index (object : Nat) (properties links : List String) (t : Tree) : Index where
  name := t.declaredName
  unique := (t.booleanAt? "unique").getD true
  keys := marked (indexKey object properties links) (t.itemsAt "keys")
  object

/-- The indexes of an object. -/
def indexes (object : Nat) (t : Tree) : List Index :=
  (t.itemsAt "indexes").map (index object (t.namesAt "properties") (t.namesAt "links"))

/-! ### Projects -/

/-- The names of the built-in types. -/
def builtinNames : List String := builtinDataTypes.map (·.name)

/-- The names of all types of a project, the built-in ones first. -/
def typeNames (d : Tree) : List String := builtinNames ++ d.namesAt "datatypes"

/-- **An object**, given the whole definition and its own position. -/
def object (d : Tree) (position : Nat) (t : Tree) : Object where
  name := t.declaredName
  properties := properties (typeNames d) t
  links := links (d.namesAt "objects") position t
  reverseLinks := reverseLinks (d.itemsAt "objects") t.declaredName
  indexes := indexes position t
  attributes := attributesOf t

/-- **The project that a definition describes.** -/
def project (d : Tree) : Project where
  name := d.declaredName
  attributes := attributesOf d
  dataTypes := builtinDataTypes ++ (d.itemsAt "datatypes").map dataType
  objects := (d.itemsAt "objects").zipIdx.map fun (t, position) => object d position t
  files := (d.itemsAt "files").map file

end Reading

end Blueprint
