import Blueprint.Project

/-!
# The dump of a project

A project is shown to people as lines of text: its name, then attributes, declared
types, objects and files, each section under a heading with the number of its entries.
Nesting is shown by the blanks at the start of a line, and every reference by the name
of what it refers to, so a dump exists only when all of them resolve
(`Project.dumpLines?`).
-/

namespace Blueprint

namespace Project

/-- So many blanks. -/
def indent (n : Nat) : String := String.ofList (List.replicate n ' ')

/-- A heading with the number of entries below it. -/
def heading (title : String) (count : Nat) : String := title ++ " : x" ++ naturalText count

/-- A heading inside an object, and the lines below it. -/
def group (title : String) (count : Nat) (lines : List String) : List String :=
  (indent 4 ++ heading title count) :: lines

/-- A text between angle brackets. -/
def bracketed (s : String) : String := "<" ++ s ++ ">"

/-- The lines of attributes. -/
def attributeLines (m : AttributeMap) : List String :=
  m.entries.map fun (name, value) =>
    indent 6 ++ "- Attribute " ++ bracketed name ++ " = " ++ bracketed value.text

/-- The lines of a declared type: its name, and the values of an enumeration. -/
def dataTypeLines (t : DataType) : List String :=
  (indent 6 ++ "- Data type " ++ t.kind.text ++ " " ++ bracketed t.name) ::
    (if t.kind = .enumeration then t.values.map fun v => indent 10 ++ "- " ++ bracketed v else [])

/-- The line of a property. -/
def propertyLine? (p : Project) (property : Property) : Option String := do
  let type ← p.dataTypes[property.dataType]?
  return indent 6 ++ "- Property " ++ bracketed property.name ++ " (type:" ++ type.name ++
    ", mandatory:" ++ Tree.booleanText property.mandatory ++ ")"

/-- The line of a link. -/
def linkLine? (p : Project) (link : Link) : Option String := do
  let target ← p.objectName link.target
  return indent 6 ++ "- Link " ++ bracketed link.name ++ " (target:" ++ target ++
    ", mandatory:" ++ Tree.booleanText link.mandatory ++ ")"

/-- The line of a link at its target. -/
def reverseLinkLine? (p : Project) (handle : LinkHandle) : Option String := do
  let link ← p.link? handle
  let source ← p.objectName link.source
  return indent 6 ++ "- Link " ++ bracketed link.name ++ " (source:" ++ source ++ ")"

/-- The line of an index key, of so many. -/
def keyLine? (p : Project) (count : Nat) (key : IndexKey) : Option String := do
  let name ← p.referenceName key.reference
  return indent 8 ++ "- Key n°" ++ naturalText key.position ++ "/" ++ naturalText count ++ " : " ++
    key.reference.kind.text ++ " " ++ bracketed name

/-- The lines of an index. -/
def indexLines? (p : Project) (index : Index) : Option (List String) := do
  let keys ← index.keys.mapM (p.keyLine? index.keys.length)
  return (indent 6 ++ "- Index " ++ bracketed index.name ++ " (unique:" ++
    Tree.booleanText index.unique ++ ") :") :: keys

/-- **The lines of an object.** -/
def objectLines? (p : Project) (o : Object) : Option (List String) := do
  let properties ← o.properties.mapM p.propertyLine?
  let links ← o.links.mapM p.linkLine?
  let reverse ← o.reverseLinks.mapM p.reverseLinkLine?
  let indexes ← o.indexes.mapM p.indexLines?
  return ["", indent 2 ++ "- Object " ++ bracketed o.name ++ " :"] ++
    group "Attributes" o.attributes.size (attributeLines o.attributes) ++
    group "Properties" o.properties.length properties ++
    group "Links" o.links.length links ++
    group "Reverse links" o.reverseLinks.length reverse ++
    group "Indexes" o.indexes.length indexes.flatten

/-- The lines of a file declaration, with its position counted from one. -/
def fileLines (f : OutputFile) (position : Nat) : List String :=
  [indent 2 ++ "- File n°" ++ naturalText position ++ " (scope " ++ bracketed f.scope.text ++ ")",
   indent 5 ++ "- Input : " ++ bracketed f.input,
   indent 5 ++ "- Output : " ++ bracketed f.output]

/-- **The lines of a project**, when every reference in it resolves. -/
def dumpLines? (p : Project) : Option (List String) := do
  let objects ← p.objects.mapM p.objectLines?
  return ["Project " ++ bracketed p.name ++ " :"] ++
    ["", heading "Attributes" p.attributes.size] ++ attributeLines p.attributes ++
    ["", heading "Data types" p.userDataTypes.length] ++
      p.userDataTypes.flatMap dataTypeLines ++
    ["", heading "Objects" p.objects.length] ++ objects.flatten ++
    ["", heading "Files" p.files.length] ++
      (p.files.zipIdx 1).flatMap fun (f, position) => fileLines f position

/-- Lines as a text, each with a line break at its end. -/
def joinLines (lines : List String) : String :=
  String.join (lines.map fun line => line ++ "\n")

/-- **The dump of a project**, empty when a reference leads nowhere. -/
def dump (p : Project) : String := joinLines (p.dumpLines?.getD [])

end Project

end Blueprint
