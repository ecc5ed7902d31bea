import Blueprint.Load.Link

/-!
# Reading indexes

The third pass reads the indexes of every object. An index has a name and at least one
key, and is unique unless it says otherwise; a key names a property or a link of the
same object. Whether two indexes of an object may share a name is an option.
-/

namespace Blueprint

/-- What the format of definitions leaves open. -/
structure LoadOptions where
  /-- Two indexes of one object must have different names. -/
  uniqueIndexNames : Bool
deriving DecidableEq

/-- Index names are unique unless somebody asks for the contrary. -/
def LoadOptions.default : LoadOptions := ⟨true⟩

namespace Load

/-! ### Keys -/

/-- What the keys of an object's indexes can refer to. -/
structure KeyScope where
  object : Nat
  properties : List String
  links : List String

/-- The property or link of a name: the first one. -/
def KeyScope.find? (scope : KeyScope) (kind : KeyKind) (name : String) : Option KeyReference :=
  match kind with
  | .property =>
    (scope.properties.findIdx? fun n => n == name).map fun i => .property ⟨scope.object, i⟩
  | .link => (scope.links.findIdx? fun n => n == name).map fun i => .link ⟨scope.object, i⟩

/-- What a key names, under the kind that its field says. -/
def keyReference (scope : KeyScope) (kind : KeyKind) (raw : Tree) (entity : Label) :
    Except LoadError KeyReference := do
  let name ← text raw entity kind.text
  orError (scope.find? kind name) (.unresolvedIndexKey entity kind name)

/-- The kind of key that a field gives. -/
def keyKind? : String → Option KeyKind
  | "property" => some .property
  | "link" => some .link
  | _ => none

/-- The form of an index key, which refers to one thing under one of two fields. -/
def keyForm (scope : KeyScope) (entity : Label) : Form where
  Slot := Unit
  Value _ := KeyReference
  slot? key := (keyKind? key).map fun _ => ()
  slotName _ := "reference"
  label _ := entity
  read _ key _ raw := keyReference scope ((keyKind? key).getD .property) raw entity

/-- **An index key**, not yet known to be the last one. -/
def indexKey (scope : KeyScope) (index : Label) (fragment : Tree) (position : Nat) :
    Except LoadError IndexKey := do
  let entity := index.within .key (.numbered position)
  let d ← (keyForm scope entity).draft fragment
  let reference ← required (d ()) entity "property or link"
  return ⟨position, reference, false⟩

/-- The keys of an index, the last one marked. -/
def indexKeys (scope : KeyScope) (raw : Tree) (index : Label) :
    Except LoadError (List IndexKey) := do
  let keys ← each (indexKey scope index) (← items raw index "keys")
  return markLast (fun k => { k with isLast := true }) keys

/-! ### Indexes -/

inductive IndexSlot where
  | name
  | unique
  | keys
deriving DecidableEq

/-- What an index says. -/
abbrev IndexSlot.Value : IndexSlot → Type
  | .name => String
  | .unique => Bool
  | .keys => List IndexKey

/-- The label of the index at a position of an object. -/
def indexLabel (owner : Label) (position : Nat) (name : Option String) : Label :=
  owner.within .index (.ofName name position)

/-- The form of the index at a position of an object. -/
def indexForm (scope : KeyScope) (owner : Label) (position : Nat) : Form where
  Slot := IndexSlot
  Value := IndexSlot.Value
  slot? key :=
    match key with
    | "name" => some .name
    | "unique" => some .unique
    | "keys" => some .keys
    | _ => none
  slotName slot :=
    match slot with
    | .name => "name"
    | .unique => "unique"
    | .keys => "keys"
  label d := indexLabel owner position (d .name)
  read d _ slot raw :=
    let entity := indexLabel owner position (d .name)
    match slot with
    | .name => identifier raw entity "name"
    | .unique => boolean raw entity "unique"
    | .keys => indexKeys scope raw entity

/-- An index of an object. -/
def index (scope : KeyScope) (owner : Label) (fragment : Tree) (position : Nat) :
    Except LoadError Index := do
  let form := indexForm scope owner position
  let d ← form.draft fragment
  let name ← required (d IndexSlot.name) (form.label d) "name"
  let keys ← requiredList (d IndexSlot.keys) (form.label d) "keys"
  return ⟨name, (d IndexSlot.unique).getD true, keys, scope.object⟩

/-- The index at a position, after others, of other names if the options ask for
it. -/
def nextIndex (options : LoadOptions) (scope : KeyScope) (owner : Label) (done : List Index)
    (fragment : Tree) (position : Nat) : Except LoadError Index := do
  let index ← index scope owner fragment position
  if options.uniqueIndexNames && done.any fun i => i.name == index.name then
    .error (.duplicateDefinition owner (namedField .index index.name))
  else .ok index

/-- **The indexes of one object**, given its links. -/
def objectIndexes (options : LoadOptions) (object : ObjectOutline) (links : List Link)
    (position : Nat) : Except LoadError (List Index) :=
  match object.indexes with
  | none => .ok []
  | some raw => do
    let owner := ownerLabel object.name
    let scope : KeyScope := ⟨position, object.properties.map (·.name), links.map (·.name)⟩
    eachAfter (nextIndex options scope owner) (← items raw owner "indexes")

/-- **The third pass**: the indexes of every object, in order. -/
def indexes (options : LoadOptions) (outline : Outline) (links : List (List Link)) :
    Except LoadError (List (List Index)) :=
  ((outline.objects.zip links).zipIdx).mapM fun ((object, links), position) =>
    objectIndexes options object links position

end Load

end Blueprint
