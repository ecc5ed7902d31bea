import Blueprint.Load.Label

/-!
# Faults of a definition

A definition that describes no project is refused with one `LoadError`: what is wrong,
the entity it is wrong in, and the field or name concerned. Each kind of error has a
code for programs (`LoadError.code`) and a text for people (`LoadError.message`).
-/

namespace Blueprint

/-- What a field has to be. -/
inductive Expectation where
  | string
  | boolean
  | number
  | scalar
  | sequence
  | mapping
  | mappingOrSequence
  | dataTypeKind
  | fileScope
deriving DecidableEq

/-- The wording of an expectation. -/
def Expectation.text : Expectation → String
  | .string => "a string"
  | .boolean => "a boolean"
  | .number => "a number"
  | .scalar => "a scalar"
  | .sequence => "a sequence"
  | .mapping => "a mapping"
  | .mappingOrSequence => "a mapping or a sequence"
  | .dataTypeKind => "one of: enumeration"
  | .fileScope => "one of: project, object"

/-- What a project must have and lacks. -/
inductive Incompleteness where
  | name
  | objects (project : Label)
  | files (project : Label)
deriving DecidableEq

/-- The wording of a lack. -/
def Incompleteness.text : Incompleteness → String
  | .name => "project name is not defined"
  | .objects project => "object list of " ++ project.text ++ " is empty"
  | .files project => "file list of " ++ project.text ++ " is empty"

/-- **Why a definition is refused.** -/
inductive LoadError where
  /-- A field or a named entity comes twice. -/
  | duplicateDefinition (entity : Label) (field : String)
  /-- A text is empty once trimmed. -/
  | emptyValue (entity : Label) (field : String)
  /-- A value is not of the kind that the field takes. -/
  | invalidShape (entity : Label) (field : String) (expected : Expectation)
  /-- A name has a blank inside. -/
  | invalidIdentifier (entity : Label) (field : String) (value : String)
  /-- A field that has no default is missing. -/
  | missingRequiredField (entity : Label) (field : String)
  /-- A field that the entity does not have. -/
  | unknownAttribute (entity : Label) (key : String)
  /-- A property has a type that does not exist, at least not yet. -/
  | unknownDataType (entity : Label) (name : String)
  /-- A link leads to an object that does not exist. -/
  | unresolvedLinkTarget (entity : Label) (target : String)
  /-- An index key names nothing of its object. -/
  | unresolvedIndexKey (entity : Label) (kind : KeyKind) (reference : String)
  /-- The lower bound of a property lies above the upper one. -/
  | rangeViolation (entity : Label) (minimum maximum : Number)
  /-- The project has no name, no object or no file. -/
  | incompleteProject (reason : Incompleteness)
deriving DecidableEq

namespace LoadError

/-- **The code of an error**, one for each kind. -/
def code : LoadError → String
  | .duplicateDefinition .. => "duplicate_definition"
  | .emptyValue .. => "empty_value"
  | .invalidShape .. => "invalid_shape"
  | .invalidIdentifier .. => "invalid_identifier"
  | .missingRequiredField .. => "missing_required_field"
  | .unknownAttribute .. => "unknown_attribute"
  | .unknownDataType .. => "unknown_data_type"
  | .unresolvedLinkTarget .. => "unresolved_link_target"
  | .unresolvedIndexKey .. => "unresolved_index_key"
  | .rangeViolation .. => "range_violation"
  | .incompleteProject .. => "incomplete_project"

/-- **The text of an error.** -/
def message : LoadError → String
  | .duplicateDefinition entity field => field ++ " of " ++ entity.text ++ " is already defined"
  | .emptyValue entity field => field ++ " of " ++ entity.text ++ " is empty"
  | .invalidShape entity field expected =>
    field ++ " of " ++ entity.text ++ " is not " ++ expected.text
  | .invalidIdentifier entity field value =>
    "invalid " ++ field ++ " <" ++ value ++ "> of " ++ entity.text ++ " (spaces forbidden)"
  | .missingRequiredField entity field => field ++ " of " ++ entity.text ++ " is not defined"
  | .unknownAttribute entity key => "unknown attribute <" ++ key ++ "> in " ++ entity.text
  | .unknownDataType entity name => "unknown data type <" ++ name ++ "> for " ++ entity.text
  | .unresolvedLinkTarget entity target =>
    "target <" ++ target ++ "> of " ++ entity.text ++ " does not exist"
  | .unresolvedIndexKey entity kind reference =>
    kind.text ++ " reference <" ++ reference ++ "> in " ++ entity.text ++ " does not exist"
  | .rangeViolation entity minimum maximum =>
    "minimum " ++ minimum.text ++ " of " ++ entity.text ++ " exceeds maximum " ++ maximum.text
  | .incompleteProject reason => "project is incomplete: " ++ reason.text

end LoadError

end Blueprint
