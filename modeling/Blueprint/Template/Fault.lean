import Blueprint.Number

/-!
# What can be wrong with a template

A template fails as a text, when it is read, or on its data, when it is expanded. Which
of the two it is shows in the fault alone, since every fault of the first kind is
`malformed`.
-/

namespace Blueprint

/-- **Why a template has no expansion.** -/
inductive TemplateFault where
  /-- The text is no template. -/
  | malformed
  /-- A call of something that is no helper. -/
  | unknownHelper
  /-- An inclusion. There is nothing to include. -/
  | unknownInclusion
  /-- A value that is not there, where strict expansion asks for it. -/
  | missingValue
  /-- A list is asked for something else than a position. -/
  | notAPosition
  /-- A helper lacks the argument at a position. -/
  | missingArgument (helper : String) (position : Nat)
  /-- A helper lacks an operand, or in strict expansion the value of one. -/
  | missingOperand (helper : String) (operand : String)
  /-- A naming helper is given something that is no text. -/
  | notAText
deriving DecidableEq

/-- The message of a fault. -/
def TemplateFault.message : TemplateFault → String
  | .malformed => "not a template"
  | .unknownHelper => "unknown helper"
  | .unknownInclusion => "nothing to include"
  | .missingValue => "a value is missing"
  | .notAPosition => "not a position in a list"
  | .missingArgument helper position =>
    "Helper/Decorator " ++ helper ++ " param at index " ++ naturalText position ++
      " required but not found"
  | .missingOperand helper operand =>
    "Helper/Decorator " ++ helper ++ " param with name '" ++ operand ++
      "' required but not found"
  | .notAText => "Invalid param type, string expected"

end Blueprint
