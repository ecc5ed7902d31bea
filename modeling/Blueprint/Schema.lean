import Blueprint.Project.View

/-!
# The schema of template data

The data that templates are expanded with is described by a JSON schema, for those who
write templates. The schema is a table of the records that the data is made of,
`viewRecords`: for each record its fields, with what they hold and whether they may be
missing. `contextSchema` writes the table in the words of JSON Schema.

Records and fields stand in alphabetical order, and so do the fields that a record
requires.
-/

namespace Blueprint

namespace Schema

/-- **What a field holds.** -/
inductive FieldType where
  | string
  | optionalString
  | boolean
  /-- A number counted from one. -/
  | position
  /-- Any value at all. -/
  | anything
  /-- A mapping with any keys. -/
  | freeMapping
  /-- A record of the table. -/
  | record (name : String)
  | list (items : FieldType)

/-- **A field of a record.** One that is optional may be missing. -/
structure Field where
  name : String
  type : FieldType
  description : Option String
  isOptional : Bool

/-- A field that is always there and needs no explanation. -/
def Field.plain (name : String) (type : FieldType) : Field := ⟨name, type, none, false⟩

/-- A field that is always there, with an explanation. -/
def Field.explained (name : String) (type : FieldType) (description : String) : Field :=
  ⟨name, type, some description, false⟩

/-- A field that may be missing. -/
def Field.optional (name : String) (type : FieldType) : Field := ⟨name, type, none, true⟩

/-- **A record**: its name, an explanation, and its fields. -/
structure RecordType where
  name : String
  description : Option String
  fields : List Field

/-! ### The records of template data -/

/-- The records that template data is made of. -/
def viewRecords : List RecordType :=
  [⟨"DataTypeView", none,
      [.explained "internal" .boolean "True for built-in types.",
       .explained "kind" .string
        "`string`, `integer`, `real`, `boolean`, `date`, `time`, `datetime` or `enumeration`.",
       .plain "name" .string,
       .explained "values" (.list .string)
        "Allowed values of an enumeration, in declaration order."]⟩,
   ⟨"FileView", none,
      [.plain "input" .string, .plain "output" .string,
       .explained "scope" .string "`project` or `object`."]⟩,
   ⟨"IndexKeyView", none,
      [.plain "isLast" .boolean,
       .explained "kind" .string "`property` or `link`.",
       .explained "position" .position "1-based position inside the index.",
       .plain "reference" (.record "NameRef")]⟩,
   ⟨"IndexView", none,
      [.plain "keys" (.list (.record "IndexKeyView")), .plain "name" .string,
       .plain "unique" .boolean]⟩,
   ⟨"LinkView", none,
      [.plain "mandatory" .boolean, .plain "name" .string,
       .plain "source" (.record "NameRef"), .plain "target" (.record "NameRef")]⟩,
   ⟨"NameRef", some "Reference to another entity by name.", [.plain "name" .string]⟩,
   ⟨"ObjectView", none,
      [.plain "attributes" .freeMapping, .plain "indexes" (.list (.record "IndexView")),
       .plain "links" (.list (.record "LinkView")), .plain "name" .string,
       .plain "properties" (.list (.record "PropertyView")),
       .explained "reverseLinks" (.list (.record "LinkView"))
        "Links declared on other objects that target this one."]⟩,
   ⟨"ProjectView", none,
      [.plain "attributes" .freeMapping,
       .explained "dataTypes" (.list (.record "DataTypeView"))
        "Built-in and user-defined data types.",
       .plain "files" (.list (.record "FileView")), .plain "name" .string,
       .plain "objects" (.list (.record "ObjectView"))]⟩,
   ⟨"PropertyView", none,
      [.plain "attributes" .freeMapping, .optional "defaultValue" .anything,
       .explained "isLast" .boolean "True for the last property of its object.",
       .plain "mandatory" .boolean, .optional "maximum" .anything,
       .optional "minimum" .anything, .plain "name" .string,
       .optional "pattern" .optionalString, .plain "secret" .boolean,
       .plain "type" (.record "DataTypeView")]⟩]

/-- The data of a template that is expanded for each object. -/
def objectScope : RecordType :=
  ⟨"ObjectScope", some "Context of an object-scope file: the current object plus its project.",
    [.plain "object" (.record "ObjectView"), .plain "project" (.record "ProjectView")]⟩

/-! ### The schema as a tree -/

/-- An entry that says the type of a value. -/
def typeEntry (name : String) : String × Tree := ("type", .string name)

/-- What a field holds, in the words of JSON Schema, after its explanation. -/
def FieldType.toTree (description : Entries) : FieldType → Tree
  | .string => .mapping (description ++ [typeEntry "string"])
  | .optionalString =>
    .mapping (description ++ [("type", .sequence [.string "string", .string "null"])])
  | .boolean => .mapping (description ++ [typeEntry "boolean"])
  | .position =>
    .mapping (description ++ [typeEntry "integer", ("format", .string "uint"),
      ("minimum", .number (.double (.zero false)))])
  | .anything => .boolean true
  | .freeMapping =>
    .mapping (description ++ [typeEntry "object", ("additionalProperties", .boolean true)])
  | .record name => .mapping [("$ref", .string ("#/definitions/" ++ name))]
  | .list items => .mapping (description ++ [typeEntry "array", ("items", items.toTree [])])

/-- The entry of an explanation, if there is one. -/
def descriptionEntry (description : Option String) : Entries :=
  match description with
  | some text => [("description", .string text)]
  | none => []

/-- The names of the fields that must be there. -/
def RecordType.required (r : RecordType) : List String :=
  (r.fields.filter fun f => !f.isOptional).map (·.name)

/-- The entries of a record: its explanation, the fields it requires, and all fields. -/
def RecordType.entries (r : RecordType) : Entries :=
  descriptionEntry r.description ++
    [typeEntry "object", ("required", .sequence (r.required.map .string)),
      ("properties", .mapping (r.fields.map fun f =>
        (f.name, f.type.toTree (descriptionEntry f.description))))]

end Schema

/-- **The JSON schema of template data.** -/
def contextSchema : Tree :=
  .mapping ([("$schema", .string "http://json-schema.org/draft-07/schema#"),
      ("title", .string Schema.objectScope.name)] ++ Schema.objectScope.entries ++
    [("definitions", .mapping (Schema.viewRecords.map fun r => (r.name, .mapping r.entries)))])

end Blueprint
