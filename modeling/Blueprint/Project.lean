import Blueprint.Tree

/-!
# Projects

A project is what a definition describes: named objects with typed properties, links
from one object to another, and indexes over the properties and links of one object,
together with the files to be generated from them. The types of properties are those
built in, `builtinDataTypes`, and the enumerations that the definition declares.

A project owns every entity, and the cross references between entities are positions:
the type of a property is a position in `Project.dataTypes`, the target of a link one in
`Project.objects`, and a link or a property is found again by its object and its position
there (`LinkHandle`, `PropertyHandle`). Looking a handle up can therefore fail, and
`Project.objectName` and its kin say so in their type.
-/

namespace Blueprint

/-! ### Attributes -/

/-- The value of an attribute, or the default of a property. -/
inductive Scalar where
  | boolean (value : Bool)
  | number (value : Number)
  | string (value : String)
deriving DecidableEq

/-- The text of a scalar, a string without quotes. -/
def Scalar.text : Scalar → String
  | .boolean b => Tree.booleanText b
  | .number n => n.text
  | .string s => s

/-- A scalar as a tree. -/
def Scalar.toTree : Scalar → Tree
  | .boolean b => .boolean b
  | .number n => .number n
  | .string s => .string s

/-- The scalar that a tree is, if it is one. -/
def Scalar.ofTree? : Tree → Option Scalar
  | .boolean b => some (.boolean b)
  | .number n => some (.number n)
  | .string s => some (.string s)
  | _ => none

/-- **Attributes**: named scalars in the order of their declaration, each name once. -/
structure AttributeMap where
  entries : List (String × Scalar)
deriving DecidableEq

namespace AttributeMap

def empty : AttributeMap := ⟨[]⟩

instance : Inhabited AttributeMap := ⟨empty⟩

def size (m : AttributeMap) : Nat := m.entries.length

def isEmpty (m : AttributeMap) : Bool := m.entries.isEmpty

/-- The value of an attribute. -/
def get? (m : AttributeMap) (name : String) : Option Scalar :=
  (m.entries.find? fun entry => entry.1 == name).map (·.2)

def contains (m : AttributeMap) (name : String) : Bool := (m.get? name).isSome

/-- **A new attribute at the end**, or nothing when the name is taken. -/
def insert? (m : AttributeMap) (name : String) (value : Scalar) : Option AttributeMap :=
  if m.contains name then none else some ⟨m.entries ++ [(name, value)]⟩

/-- The attributes as a mapping. -/
def toTree (m : AttributeMap) : Tree :=
  .mapping (m.entries.map fun entry => (entry.1, entry.2.toTree))

end AttributeMap

/-! ### Data types -/

/-- What a data type holds. -/
inductive DataTypeKind where
  | string
  | integer
  | real
  | boolean
  | date
  | time
  | datetime
  | enumeration
deriving DecidableEq

/-- The name of a kind. -/
def DataTypeKind.text : DataTypeKind → String
  | .string => "string"
  | .integer => "integer"
  | .real => "real"
  | .boolean => "boolean"
  | .date => "date"
  | .time => "time"
  | .datetime => "datetime"
  | .enumeration => "enumeration"

/-- **A type of properties.** The values are those of an enumeration, and an internal
type is one built in. -/
structure DataType where
  name : String
  kind : DataTypeKind
  values : List String
  internal : Bool
deriving DecidableEq

/-- A built-in type, which has no values. -/
def DataType.builtin (name : String) (kind : DataTypeKind) : DataType :=
  ⟨name, kind, [], true⟩

/-- **The types that every project starts with.** -/
def builtinDataTypes : List DataType :=
  [.builtin "string" .string, .builtin "integer" .integer, .builtin "uuid" .string,
   .builtin "id" .integer, .builtin "boolean" .boolean, .builtin "date" .date,
   .builtin "text" .string, .builtin "time" .time, .builtin "datetime" .datetime,
   .builtin "email" .string, .builtin "image" .string, .builtin "real" .real,
   .builtin "price" .real]

/-! ### Objects -/

/-- A property: the position of its object and its own among the object's
properties. -/
structure PropertyHandle where
  object : Nat
  position : Nat
deriving DecidableEq

/-- A link: the position of its source and its own among the source's links. -/
structure LinkHandle where
  object : Nat
  position : Nat
deriving DecidableEq

/-- **A typed field of an object.** -/
structure Property where
  name : String
  /-- The position of the type among the types of the project. -/
  dataType : Nat
  mandatory : Bool
  defaultValue : Option Scalar
  secret : Bool
  pattern : Option String
  minimum : Option Number
  maximum : Option Number
  attributes : AttributeMap
  /-- The last property of its object. -/
  isLast : Bool
deriving DecidableEq

/-- **A reference from one object to another**, both given by their positions. -/
structure Link where
  name : String
  source : Nat
  target : Nat
  mandatory : Bool
deriving DecidableEq

/-- What an index key is: a property or a link. -/
inductive KeyKind where
  | property
  | link
deriving DecidableEq

def KeyKind.text : KeyKind → String
  | .property => "property"
  | .link => "link"

/-- What an index key refers to. -/
inductive KeyReference where
  | property (handle : PropertyHandle)
  | link (handle : LinkHandle)
deriving DecidableEq

def KeyReference.kind : KeyReference → KeyKind
  | .property _ => .property
  | .link _ => .link

/-- **One key of an index**, with its position counted from one. -/
structure IndexKey where
  position : Nat
  reference : KeyReference
  /-- The last key of its index. -/
  isLast : Bool
deriving DecidableEq

/-- **An index** over properties and links of one object. -/
structure Index where
  name : String
  unique : Bool
  keys : List IndexKey
  /-- The position of the object. -/
  object : Nat
deriving DecidableEq

/-- **An object**: its properties, its links, the links of any object that lead to it,
and its indexes. -/
structure Object where
  name : String
  properties : List Property
  links : List Link
  reverseLinks : List LinkHandle
  indexes : List Index
  attributes : AttributeMap
deriving DecidableEq

/-- The first property of a name. -/
def Object.property? (o : Object) (name : String) : Option Property :=
  o.properties.find? fun p => p.name == name

/-- The first link of a name. -/
def Object.link? (o : Object) (name : String) : Option Link :=
  o.links.find? fun l => l.name == name

/-- The first index of a name. -/
def Object.index? (o : Object) (name : String) : Option Index :=
  o.indexes.find? fun i => i.name == name

/-! ### Files and projects -/

/-- How often a file is generated: once, or once for each object. -/
inductive FileScope where
  | project
  | object
deriving DecidableEq

def FileScope.text : FileScope → String
  | .project => "project"
  | .object => "object"

/-- The scope of a name. -/
def FileScope.ofText? : String → Option FileScope
  | "project" => some .project
  | "object" => some .object
  | _ => none

/-- **A file to generate**: its scope, its template, and the template of its path. -/
structure OutputFile where
  scope : FileScope
  input : String
  output : String
deriving DecidableEq

/-- **A project**, which owns every entity. -/
structure Project where
  name : String
  attributes : AttributeMap
  dataTypes : List DataType
  objects : List Object
  files : List OutputFile
deriving DecidableEq

namespace Project

/-- The property of a handle. -/
def property? (p : Project) (h : PropertyHandle) : Option Property := do
  (← p.objects[h.object]?).properties[h.position]?

/-- The link of a handle. -/
def link? (p : Project) (h : LinkHandle) : Option Link := do
  (← p.objects[h.object]?).links[h.position]?

/-- The name of the object at a position. -/
def objectName (p : Project) (position : Nat) : Option String :=
  p.objects[position]?.map (·.name)

/-- The name of what an index key refers to. -/
def referenceName (p : Project) : KeyReference → Option String
  | .property h => (p.property? h).map (·.name)
  | .link h => (p.link? h).map (·.name)

/-- The position of the first object of a name. -/
def findObject? (p : Project) (name : String) : Option Nat :=
  p.objects.findIdx? fun o => o.name == name

/-- The position of the first data type of a name. -/
def findDataType? (p : Project) (name : String) : Option Nat :=
  p.dataTypes.findIdx? fun t => t.name == name

/-- The types that the definition declares. -/
def userDataTypes (p : Project) : List DataType :=
  p.dataTypes.filter fun t => !t.internal

end Project

end Blueprint
