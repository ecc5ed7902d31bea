import Blueprint.Json.Reader
import Blueprint.Naming
import Blueprint.Record

/-!
# Options of a render run

Where templates and outputs are, whether a missing field is an error, whether files are
really written, and what the two upper case naming helpers are called. Every option has
a default.
-/

namespace Blueprint

/-- **What the upper case styles are called in templates.** The legacy naming calls each
of them by the other one's name. -/
inductive CaseNaming where
  | standard
  | legacy
deriving DecidableEq

/-- The word for a naming. -/
def CaseNaming.text : CaseNaming → String
  | .standard => "standard"
  | .legacy => "legacy"

/-- The naming of a word. -/
def CaseNaming.ofText? : String → Option CaseNaming
  | "standard" => some .standard
  | "legacy" => some .legacy
  | _ => none

/-- **The options of a render run.** -/
structure RenderOptions where
  templateDir : String
  outputDir : String
  strict : Bool
  dryRun : Bool
  caseNaming : CaseNaming
deriving DecidableEq

namespace RenderOptions

/-- The options that hold when nothing is said. -/
def default : RenderOptions := ⟨".", ".", false, false, .standard⟩

/-- The names of the options, in order. -/
def fieldNames : List String := ["template_dir", "output_dir", "strict", "dry_run", "case_naming"]

/-- **Options read from a document**, a default for each that is not given. -/
def read? {α : Type} [Document α] (value : α) : Option RenderOptions := do
  let fields ← Document.fields? fieldNames value
  let templateDir ← readFieldOr? fields "template_dir" default.templateDir Document.string?
  let outputDir ← readFieldOr? fields "output_dir" default.outputDir Document.string?
  let strict ← readFieldOr? fields "strict" default.strict Document.boolean?
  let dryRun ← readFieldOr? fields "dry_run" default.dryRun Document.boolean?
  let caseNaming ← readFieldOr? fields "case_naming" default.caseNaming fun v =>
    (Document.choice? v).bind CaseNaming.ofText?
  return ⟨templateDir, outputDir, strict, dryRun, caseNaming⟩

/-- Options as a tree. -/
def toTree (o : RenderOptions) : Tree :=
  .mapping [("template_dir", .string o.templateDir), ("output_dir", .string o.outputDir),
    ("strict", .boolean o.strict), ("dry_run", .boolean o.dryRun),
    ("case_naming", .string o.caseNaming.text)]

/-- Options from a JSON text. -/
def ofJson? (text : String) : Option RenderOptions := do
  read? (← Json.readNode? text)

end RenderOptions

end Blueprint
