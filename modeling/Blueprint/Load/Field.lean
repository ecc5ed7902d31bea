import Blueprint.Load.Error
import Blueprint.Text.Blank

/-!
# Single values of a definition

How one value is read once it is known which field of which entity it is given for:
texts are trimmed and must not be empty, identifiers are texts without a blank inside,
and everything else is taken as it stands when it has the right shape. Every reader
takes the label of the entity and the name of the field, which only its errors use.
-/

namespace Blueprint

namespace Load

/-- The value of an optional that has to be there. -/
def orError {α : Type} (value : Option α) (error : LoadError) : Except LoadError α :=
  match value with
  | some v => .ok v
  | none => .error error

/-- **A text**: a string that is not blank, without the blanks around it. -/
def text (raw : Tree) (entity : Label) (field : String) : Except LoadError String :=
  match raw with
  | .string s => if trim s = "" then .error (.emptyValue entity field) else .ok (trim s)
  | _ => .error (.invalidShape entity field .string)

/-- **An identifier**: a text without a blank inside. -/
def identifier (raw : Tree) (entity : Label) (field : String) : Except LoadError String := do
  let value ← text raw entity field
  if hasBlank value then .error (.invalidIdentifier entity field value) else .ok value

/-- A truth value. -/
def boolean (raw : Tree) (entity : Label) (field : String) : Except LoadError Bool :=
  orError raw.asBoolean? (.invalidShape entity field .boolean)

/-- A number. -/
def number (raw : Tree) (entity : Label) (field : String) : Except LoadError Number :=
  orError raw.asNumber? (.invalidShape entity field .number)

/-- Any scalar, a string with its blanks. -/
def scalar (raw : Tree) (entity : Label) (field : String) : Except LoadError Scalar :=
  orError (Scalar.ofTree? raw) (.invalidShape entity field .scalar)

/-- The items of a sequence. -/
def items (raw : Tree) (entity : Label) (field : String) : Except LoadError (List Tree) :=
  orError raw.asSequence? (.invalidShape entity field .sequence)

/-- A field that has no default. -/
def required {α : Type} (value : Option α) (entity : Label) (field : String) :
    Except LoadError α :=
  orError value (.missingRequiredField entity field)

/-- A list that has no default and must not be empty. -/
def requiredList {α : Type} (value : Option (List α)) (entity : Label) (field : String) :
    Except LoadError (List α) :=
  required (value.filter fun xs => !xs.isEmpty) entity field

/-- The items of a list read one by one, each with its position counted from one. -/
def each {α : Type} (read : Tree → Nat → Except LoadError α) (fragments : List Tree) :
    Except LoadError (List α) :=
  (fragments.zipIdx 1).mapM fun (fragment, position) => read fragment position

/-- The items of a list read one by one, where reading one may depend on those
before it. -/
def eachAfter {α : Type} (read : List α → Tree → Nat → Except LoadError α)
    (fragments : List Tree) : Except LoadError (List α) :=
  (fragments.zipIdx 1).foldlM (fun done (fragment, position) => do
    return done ++ [← read done fragment position]) []

end Load

end Blueprint
