import Blueprint.Load.Outline

/-!
# Reading links

The second pass reads the links of every object, now that the names of all objects are
known. A link has a name, once among the links of its object, and the name of its
target; it is mandatory unless it says otherwise.
-/

namespace Blueprint

namespace Load

inductive LinkSlot where
  | name
  | target
  | mandatory
deriving DecidableEq

/-- What a link says; its target is a position among the objects. -/
abbrev LinkSlot.Value : LinkSlot → Type
  | .name => String
  | .target => Nat
  | .mandatory => Bool

/-- The target of a link, as the position of the first object of that name. -/
def linkTarget (objects : List String) (raw : Tree) (entity : Label) : Except LoadError Nat := do
  let target ← text raw entity "target"
  orError (objects.findIdx? fun name => name == target) (.unresolvedLinkTarget entity target)

/-- The label of an object whose name is known. -/
def ownerLabel (name : String) : Label := .root .object (.named name)

/-- The label of the link at a position of an object. -/
def linkLabel (owner : Label) (position : Nat) (name : Option String) : Label :=
  owner.within .link (.ofName name position)

/-- The form of the link at a position of an object. -/
def linkForm (objects : List String) (owner : Label) (position : Nat) : Form where
  Slot := LinkSlot
  Value := LinkSlot.Value
  slot? key :=
    match key with
    | "name" => some .name
    | "target" => some .target
    | "mandatory" => some .mandatory
    | _ => none
  slotName slot :=
    match slot with
    | .name => "name"
    | .target => "target"
    | .mandatory => "mandatory"
  label d := linkLabel owner position (d .name)
  read d _ slot raw :=
    let entity := linkLabel owner position (d .name)
    match slot with
    | .name => identifier raw entity "name"
    | .target => linkTarget objects raw entity
    | .mandatory => boolean raw entity "mandatory"

/-- A link of the object at the position `source`. -/
def link (objects : List String) (source : Nat) (owner : Label) (fragment : Tree)
    (position : Nat) : Except LoadError Link := do
  let form := linkForm objects owner position
  let d ← form.draft fragment
  let name ← required (d LinkSlot.name) (form.label d) "name"
  let target ← required (d LinkSlot.target) (form.label d) "target"
  return ⟨name, source, target, (d LinkSlot.mandatory).getD true⟩

/-- The link at a position, after others of other names. -/
def nextLink (objects : List String) (source : Nat) (owner : Label) (done : List Link)
    (fragment : Tree) (position : Nat) : Except LoadError Link := do
  let link ← link objects source owner fragment position
  if done.any fun l => l.name == link.name then
    .error (.duplicateDefinition owner (namedField .link link.name))
  else .ok link

/-- **The links of one object.** -/
def objectLinks (objects : List String) (source : Nat) (object : ObjectOutline) :
    Except LoadError (List Link) :=
  match object.links with
  | none => .ok []
  | some raw => do
    let owner := ownerLabel object.name
    eachAfter (nextLink objects source owner) (← items raw owner "links")

/-- **The second pass**: the links of every object, in order. -/
def links (outline : Outline) : Except LoadError (List (List Link)) :=
  let names := outline.objects.map (·.name)
  outline.objects.zipIdx.mapM fun (object, source) => objectLinks names source object

end Load

end Blueprint
