import Blueprint.Project

/-!
# What templates see of a project

Templates are expanded with a view of the project: every entity with its fields in a
fixed order, and every reference replaced by the name of what it refers to, so the view
has no cycles and needs no positions. The view of a project exists when all its
references resolve (`ProjectView.ofProject?`), as those of a loaded project do, and it becomes
template data by `ProjectView.toTree`.
-/

namespace Blueprint

/-! ### Mappings without repetition -/

/-- A value stored under a key: in the place of the value that the key has, or at the
end. -/
def putEntry (key : String) (value : Tree) : Entries → Entries
  | [] => [(key, value)]
  | (k, v) :: rest => if k == key then (k, value) :: rest else (k, v) :: putEntry key value rest

/-- Entries collected one after another, a key that comes again replacing its value. -/
def collectEntries (entries : Entries) : Entries :=
  entries.foldl (fun done entry => putEntry entry.1 entry.2 done) []

/-! ### Views -/

/-- A reference, by name. -/
structure NameView where
  name : String
deriving DecidableEq

structure DataTypeView where
  name : String
  kind : String
  values : List String
  internal : Bool
deriving DecidableEq

structure PropertyView where
  name : String
  type : DataTypeView
  mandatory : Bool
  secret : Bool
  defaultValue : Option Scalar
  pattern : Option String
  minimum : Option Number
  maximum : Option Number
  attributes : Entries
  isLast : Bool

structure LinkView where
  name : String
  source : NameView
  target : NameView
  mandatory : Bool
deriving DecidableEq

structure IndexKeyView where
  position : Nat
  kind : String
  reference : NameView
  isLast : Bool
deriving DecidableEq

structure IndexView where
  name : String
  unique : Bool
  keys : List IndexKeyView
deriving DecidableEq

structure ObjectView where
  name : String
  properties : List PropertyView
  links : List LinkView
  reverseLinks : List LinkView
  indexes : List IndexView
  attributes : Entries

structure FileView where
  scope : String
  input : String
  output : String
deriving DecidableEq

/-- **The view of a project.** -/
structure ProjectView where
  name : String
  attributes : Entries
  dataTypes : List DataTypeView
  objects : List ObjectView
  files : List FileView

/-! ### The view of a project -/

/-- Attributes as the entries of a mapping. -/
def attributesView (m : AttributeMap) : Entries :=
  collectEntries (m.entries.map fun entry => (entry.1, entry.2.toTree))

def DataTypeView.ofDataType (t : DataType) : DataTypeView :=
  ⟨t.name, t.kind.text, t.values, t.internal⟩

def PropertyView.ofProperty? (p : Project) (property : Property) : Option PropertyView := do
  let type ← p.dataTypes[property.dataType]?
  return {
    name := property.name
    type := .ofDataType type
    mandatory := property.mandatory
    secret := property.secret
    defaultValue := property.defaultValue
    pattern := property.pattern
    minimum := property.minimum
    maximum := property.maximum
    attributes := attributesView property.attributes
    isLast := property.isLast }

def LinkView.ofLink? (p : Project) (link : Link) : Option LinkView := do
  let source ← p.objectName link.source
  let target ← p.objectName link.target
  return ⟨link.name, ⟨source⟩, ⟨target⟩, link.mandatory⟩

/-- The view of a link found by its handle. -/
def LinkView.ofHandle? (p : Project) (handle : LinkHandle) : Option LinkView := do
  LinkView.ofLink? p (← p.link? handle)

def IndexKeyView.ofKey? (p : Project) (key : IndexKey) : Option IndexKeyView := do
  let name ← p.referenceName key.reference
  return ⟨key.position, key.reference.kind.text, ⟨name⟩, key.isLast⟩

def IndexView.ofIndex? (p : Project) (index : Index) : Option IndexView := do
  let keys ← index.keys.mapM (IndexKeyView.ofKey? p)
  return ⟨index.name, index.unique, keys⟩

def ObjectView.ofObject? (p : Project) (o : Object) : Option ObjectView := do
  let properties ← o.properties.mapM (PropertyView.ofProperty? p)
  let links ← o.links.mapM (LinkView.ofLink? p)
  let reverseLinks ← o.reverseLinks.mapM (LinkView.ofHandle? p)
  let indexes ← o.indexes.mapM (IndexView.ofIndex? p)
  return ⟨o.name, properties, links, reverseLinks, indexes, attributesView o.attributes⟩

def FileView.ofFile (f : OutputFile) : FileView := ⟨f.scope.text, f.input, f.output⟩

/-- **The view of a project**, when every reference in it resolves. -/
def ProjectView.ofProject? (p : Project) : Option ProjectView := do
  let objects ← p.objects.mapM (ObjectView.ofObject? p)
  return {
    name := p.name
    attributes := attributesView p.attributes
    dataTypes := p.dataTypes.map .ofDataType
    objects
    files := p.files.map .ofFile }

/-- The view of a project, without anything in it when a reference leads nowhere.

A project with such a reference has no view at all, and the program stops when it asks for one:
what is said here of such a project is a value to go on with, and nothing that the program does.
A project that was loaded has none of these references. -/
def ProjectView.ofProject (p : Project) : ProjectView :=
  (ProjectView.ofProject? p).getD ⟨p.name, [], [], [], []⟩

/-! ### Views as template data -/

/-- An optional value, null when there is none. -/
def optionTree {α : Type} (toTree : α → Tree) : Option α → Tree
  | some v => toTree v
  | none => .null

/-- A count or a position, which is a word of 64 bits. -/
def naturalTree (n : Nat) : Tree := .number (wordNumber (UInt64.ofNat n))

def NameView.toTree (v : NameView) : Tree := .mapping [("name", .string v.name)]

def DataTypeView.toTree (v : DataTypeView) : Tree :=
  .mapping [("name", .string v.name), ("kind", .string v.kind),
    ("values", .sequence (v.values.map .string)), ("internal", .boolean v.internal)]

def PropertyView.toTree (v : PropertyView) : Tree :=
  .mapping [("name", .string v.name), ("type", v.type.toTree),
    ("mandatory", .boolean v.mandatory), ("secret", .boolean v.secret),
    ("defaultValue", optionTree Scalar.toTree v.defaultValue),
    ("pattern", optionTree .string v.pattern), ("minimum", optionTree .number v.minimum),
    ("maximum", optionTree .number v.maximum), ("attributes", .mapping v.attributes),
    ("isLast", .boolean v.isLast)]

def LinkView.toTree (v : LinkView) : Tree :=
  .mapping [("name", .string v.name), ("source", v.source.toTree), ("target", v.target.toTree),
    ("mandatory", .boolean v.mandatory)]

def IndexKeyView.toTree (v : IndexKeyView) : Tree :=
  .mapping [("position", naturalTree v.position), ("kind", .string v.kind),
    ("reference", v.reference.toTree), ("isLast", .boolean v.isLast)]

def IndexView.toTree (v : IndexView) : Tree :=
  .mapping [("name", .string v.name), ("unique", .boolean v.unique),
    ("keys", .sequence (v.keys.map IndexKeyView.toTree))]

def ObjectView.toTree (v : ObjectView) : Tree :=
  .mapping [("name", .string v.name),
    ("properties", .sequence (v.properties.map PropertyView.toTree)),
    ("links", .sequence (v.links.map LinkView.toTree)),
    ("reverseLinks", .sequence (v.reverseLinks.map LinkView.toTree)),
    ("indexes", .sequence (v.indexes.map IndexView.toTree)),
    ("attributes", .mapping v.attributes)]

def FileView.toTree (v : FileView) : Tree :=
  .mapping [("scope", .string v.scope), ("input", .string v.input), ("output", .string v.output)]

/-- **The view of a project as template data.** -/
def ProjectView.toTree (v : ProjectView) : Tree :=
  .mapping [("name", .string v.name), ("attributes", .mapping v.attributes),
    ("dataTypes", .sequence (v.dataTypes.map DataTypeView.toTree)),
    ("objects", .sequence (v.objects.map ObjectView.toTree)),
    ("files", .sequence (v.files.map FileView.toTree))]

/-- The data of a template that is expanded once. -/
def projectContext (project : ProjectView) : Tree := .mapping [("project", project.toTree)]

/-- The data of a template that is expanded for each object. -/
def objectContext (project : ProjectView) (object : ObjectView) : Tree :=
  .mapping [("project", project.toTree), ("object", object.toTree)]

end Blueprint
