import Blueprint.Load.Form

/-!
# Reading file declarations

A file declaration has a scope, the path of its template and the template of its path,
and needs all three.
-/

namespace Blueprint

namespace Load

inductive FileSlot where
  | scope
  | input
  | output
deriving DecidableEq

/-- What a file declaration says. -/
abbrev FileSlot.Value : FileSlot → Type
  | .scope => FileScope
  | .input => String
  | .output => String

/-- How often a file is generated, by name. -/
def fileScope (raw : Tree) (entity : Label) : Except LoadError FileScope := do
  orError (FileScope.ofText? (← text raw entity "scope")) (.invalidShape entity "scope" .fileScope)

/-- The label of the file at a position. -/
def fileLabel (position : Nat) : Label := .root .file (.numbered position)

/-- The form of the file at a position. -/
def fileForm (position : Nat) : Form where
  Slot := FileSlot
  Value := FileSlot.Value
  slot? key :=
    match key with
    | "scope" => some .scope
    | "input" => some .input
    | "output" => some .output
    | _ => none
  slotName slot :=
    match slot with
    | .scope => "scope"
    | .input => "input"
    | .output => "output"
  label _ := fileLabel position
  read _ _ slot raw :=
    match slot with
    | .scope => fileScope raw (fileLabel position)
    | .input => text raw (fileLabel position) "input"
    | .output => text raw (fileLabel position) "output"

/-- **A file declaration.** -/
def file (fragment : Tree) (position : Nat) : Except LoadError OutputFile := do
  let form := fileForm position
  let d ← form.draft fragment
  let scope ← required (d FileSlot.scope) (form.label d) "scope"
  let input ← required (d FileSlot.input) (form.label d) "input"
  let output ← required (d FileSlot.output) (form.label d) "output"
  return ⟨scope, input, output⟩

/-- The file declarations of a project. -/
def files (raw : Tree) (project : Label) : Except LoadError (List OutputFile) := do
  each file (← items raw project "files")

end Load

end Blueprint
