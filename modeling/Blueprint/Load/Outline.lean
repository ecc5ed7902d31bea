import Blueprint.Load.DataType
import Blueprint.Load.File
import Blueprint.Load.Object

/-!
# The outline of a project

The first of three passes reads everything but links and indexes. A property may have
any type declared before the objects in the file, but none declared after them; apart
from that the fields of a project may come in any order. A project needs a name, at
least one object and at least one file.
-/

namespace Blueprint

/-- **A project before its links and indexes are read.** -/
structure Outline where
  name : String
  attributes : AttributeMap
  dataTypes : List DataType
  objects : List ObjectOutline
  files : List OutputFile

namespace Load

inductive ProjectSlot where
  | name
  | dataTypes
  | attributes
  | objects
  | files
deriving DecidableEq

/-- What a project says. -/
abbrev ProjectSlot.Value : ProjectSlot → Type
  | .name => String
  | .dataTypes => List DataType
  | .attributes => AttributeMap
  | .objects => List ObjectOutline
  | .files => List OutputFile

/-- The field that fills a slot of a project. -/
def ProjectSlot.text : ProjectSlot → String
  | .name => "name"
  | .dataTypes => "datatypes"
  | .attributes => "attributes"
  | .objects => "objects"
  | .files => "files"

/-- The slot that a field fills. -/
def ProjectSlot.ofText? : String → Option ProjectSlot
  | "name" => some .name
  | "datatypes" => some .dataTypes
  | "attributes" => some .attributes
  | "objects" => some .objects
  | "files" => some .files
  | _ => none

/-- The label of a project, by its name alone once it has one. -/
def projectLabel (name : Option String) : Label :=
  .root .project (match name with
    | some name => .named name
    | none => .only)

/-- The types that exist, given the types declared so far. -/
def knownTypes (declared : Option (List DataType)) : List DataType :=
  builtinDataTypes ++ declared.getD []

/-- The form of a project. -/
def projectForm : Form where
  Slot := ProjectSlot
  Value := ProjectSlot.Value
  slot? := ProjectSlot.ofText?
  slotName := ProjectSlot.text
  label d := projectLabel (d .name)
  read d _ slot raw :=
    let entity := projectLabel (d .name)
    match slot with
    | .name => text raw entity "name"
    | .dataTypes => dataTypes raw entity
    | .attributes => attributes raw entity
    | .objects => objectOutlines (knownTypes (d .dataTypes)) raw entity
    | .files => files raw entity

/-- A list that a project must have, and not empty. -/
def atLeastOne {α : Type} (value : Option (List α)) (lack : Incompleteness) :
    Except LoadError (List α) :=
  orError (value.filter fun xs => !xs.isEmpty) (.incompleteProject lack)

/-- **The first pass**: everything but links and indexes. -/
def outline (definition : Tree) : Except LoadError Outline := do
  let d ← projectForm.draft definition
  let entity := projectForm.label d
  let name ← orError (d ProjectSlot.name) (.incompleteProject .name)
  let objects ← atLeastOne (d ProjectSlot.objects) (.objects entity)
  let files ← atLeastOne (d ProjectSlot.files) (.files entity)
  return {
    name
    attributes := (d ProjectSlot.attributes).getD .empty
    dataTypes := knownTypes (d ProjectSlot.dataTypes)
    objects
    files }

end Load

end Blueprint
