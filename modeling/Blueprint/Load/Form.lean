import Blueprint.Load.Field

/-!
# Forms: entities read field by field

Every entity of a definition is a mapping, and all of them are read by one rule. The
entity has *slots*, each to be filled at most once; the entries are taken in order; an
entry whose key belongs to no slot is an error, so is one whose slot is full, and
otherwise its value is read into the slot. A repeated field is noticed before its value
is looked at.

A `Form` says what is particular to a kind of entity: its slots and what they hold,
which keys fill them, how a value is read, and what the entity is called while it is
incomplete. The values read so far are a `Draft`, from which the finished entity is
made.
-/

namespace Blueprint

/-- **A kind of entity that is read field by field.** -/
structure Form where
  /-- What can be filled. -/
  Slot : Type
  [decideSlot : DecidableEq Slot]
  /-- What a slot holds. -/
  Value : Slot → Type
  /-- The slot that an entry with this key fills. -/
  slot? : String → Option Slot
  /-- The name of a slot in a complaint about its repetition. -/
  slotName : Slot → String
  /-- The label of the entity, given what has been read. -/
  label : ((s : Slot) → Option (Value s)) → Label
  /-- A value read for a slot, given what has been read and the key of the entry. -/
  read : ((s : Slot) → Option (Value s)) → String → (s : Slot) → Tree → Except LoadError (Value s)

attribute [instance] Form.decideSlot

namespace Form

variable (F : Form)

/-- **What has been read of an entity**: the values of the slots filled so far. -/
abbrev Draft := (s : F.Slot) → Option (F.Value s)

/-- Nothing read yet. -/
def blank : F.Draft := fun _ => none

variable {F}

/-- A draft with one slot filled. -/
def Draft.fill (d : F.Draft) (s : F.Slot) (v : F.Value s) : F.Draft :=
  fun t => if h : s = t then some (h ▸ v) else d t

variable (F)

/-- **One entry entered into a draft.** -/
def enter (d : F.Draft) (entry : String × Tree) : Except LoadError F.Draft :=
  match F.slot? entry.1 with
  | none => .error (.unknownAttribute (F.label d) entry.1)
  | some s =>
    if (d s).isSome then .error (.duplicateDefinition (F.label d) (F.slotName s))
    else (F.read d entry.1 s entry.2).map fun v => Draft.fill d s v

/-- **The draft of a list of entries**, or the first complaint. -/
def enterAll (entries : Entries) : Except LoadError F.Draft :=
  entries.foldlM F.enter F.blank

/-- The draft of a fragment, which has to be a mapping. -/
def draft (fragment : Tree) : Except LoadError F.Draft :=
  match fragment with
  | .mapping entries => F.enterAll entries
  | _ => .error (.invalidShape (F.label F.blank) "definition" .mapping)

end Form

end Blueprint
