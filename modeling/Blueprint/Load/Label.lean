import Blueprint.Project

/-!
# Labels of entities under construction

Every complaint about a definition names the entity it is about, and the entities that
enclose it: `attribute <table> of property n°2 of object <User>`. A label is that chain,
innermost part first. A part shows the name of its entity once the name has been read,
and the position in its list before that.
-/

namespace Blueprint

/-- The kinds of entities that a label names. -/
inductive EntityKind where
  | project
  | builtins
  | dataType
  | value
  | object
  | property
  | attribute
  | link
  | index
  | key
  | file
deriving DecidableEq

/-- The word for a kind of entity. -/
def EntityKind.text : EntityKind → String
  | .project => "project"
  | .builtins => "built-in data types"
  | .dataType => "data type"
  | .value => "value"
  | .object => "object"
  | .property => "property"
  | .attribute => "attribute"
  | .link => "link"
  | .index => "index"
  | .key => "key"
  | .file => "file"

/-- What tells an entity from others of its kind. -/
inductive Designation where
  | only
  | named (name : String)
  | numbered (position : Nat)
deriving DecidableEq

/-- The name of an entity, or its position while the name is unknown. -/
def Designation.ofName (name : Option String) (position : Nat) : Designation :=
  match name with
  | some name => .named name
  | none => .numbered position

/-- One entity of a label. -/
structure LabelPart where
  kind : EntityKind
  designation : Designation
deriving DecidableEq

/-- The text of one entity. -/
def LabelPart.text (part : LabelPart) : String :=
  match part.designation with
  | .only => part.kind.text
  | .named name => part.kind.text ++ " <" ++ name ++ ">"
  | .numbered position => part.kind.text ++ " n°" ++ naturalText position

/-- **The label of an entity**: the entity itself, then what encloses it. -/
abbrev Label := List LabelPart

namespace Label

/-- The text of a label, its parts joined by “of”. -/
def text (label : Label) : String :=
  String.intercalate " of " (label.map LabelPart.text)

/-- The label of an entity inside another. -/
def within (owner : Label) (kind : EntityKind) (designation : Designation) : Label :=
  ⟨kind, designation⟩ :: owner

/-- The label of an entity that nothing encloses. -/
def root (kind : EntityKind) (designation : Designation) : Label :=
  within [] kind designation

end Label

/-- The text of a named entity, as a field of the entity that holds it. -/
def namedField (kind : EntityKind) (name : String) : String :=
  LabelPart.text ⟨kind, .named name⟩

end Blueprint
