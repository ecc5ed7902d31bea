import Blueprint.Disk
import Blueprint.Template.Fault

/-!
# Why a render run stops

A run stops at its first fault. The fault says for which declaration, and for which object
if it has one, something could not be read, expanded or written.
-/

namespace Blueprint

/-- **What is being rendered**: a declaration by its position, counted from one, and the
object it is rendered for, if it is rendered for each. -/
structure RenderTarget where
  position : Nat
  object : Option String
deriving DecidableEq

/-- The words for a target. -/
def RenderTarget.text (t : RenderTarget) : String :=
  let declaration := "file n°" ++ naturalText t.position
  match t.object with
  | none => declaration
  | some name => declaration ++ " for object <" ++ name ++ ">"

/-- **Why a run stops.** -/
inductive RenderError where
  /-- The template of a declaration cannot be read. -/
  | unreadable (target : RenderTarget) (path : String) (fault : DiskFault)
  /-- The output path has no expansion. -/
  | outputPath (target : RenderTarget) (fault : TemplateFault)
  /-- The output path expands to blanks. -/
  | emptyOutputPath (target : RenderTarget)
  /-- The template has no expansion. -/
  | template (target : RenderTarget) (path : String) (fault : TemplateFault)
  /-- The output cannot be written. -/
  | unwritable (path : String) (fault : DiskFault)
deriving DecidableEq

/-- **The message of an error**, given the words for template faults. -/
def RenderError.message (describe : TemplateFault → String) : RenderError → String
  | .unreadable target path fault =>
    "cannot read template <" ++ path ++ "> of " ++ target.text ++ ": " ++ fault.message
  | .outputPath target fault =>
    "cannot expand output path of " ++ target.text ++ ": " ++ describe fault
  | .emptyOutputPath target => "output path of " ++ target.text ++ " expands to nothing"
  | .template target path fault =>
    "cannot render template <" ++ path ++ "> of " ++ target.text ++ ": " ++ describe fault
  | .unwritable path fault => "cannot write <" ++ path ++ ">: " ++ fault.message

end Blueprint
