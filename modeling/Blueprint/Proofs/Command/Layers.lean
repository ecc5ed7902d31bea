import Blueprint.Command.Run

/-!
# Where options come from

An option of a run has three places to come from. The first of them that says something about
it decides.

| option | arguments | document of settings | otherwise |
|---|---|---|---|
| directory of templates | `--template-dir` | `render.template_dir` | `.` |
| directory of outputs | `--output-dir` | `render.output_dir` | `.` |
| strict | `--strict` | `render.strict` | no |
| dry run | `--dry-run` | `render.dry_run` | no |
| naming | | `render.case_naming` | standard |
| index names | | `load.enforce_unique_index_names` | unique |

An argument that is no value can only be given, so a run is strict, or dry, as soon as one of
the places says so. What a document says is `Blueprint.Settings.Choices`, in which everything
may be left open; the settings that are read from it are these choices with the last column
filled in (`Blueprint.Settings.eq_settings_of_read`), and the options of a run put the first
column on top (`Blueprint.Settings.Choices.options_settings`).
-/

namespace Blueprint

namespace Settings

/-- **What a document of settings says**, where it may leave anything open. -/
structure Choices where
  uniqueIndexNames : Option Bool
  templateDir : Option String
  outputDir : Option String
  strict : Option Bool
  dryRun : Option Bool
  caseNaming : Option CaseNaming

namespace Choices

/-- Everything is left open. -/
def none : Choices := ⟨.none, .none, .none, .none, .none, .none⟩

/-- **The settings of choices**: what is left open has its default. -/
def settings (c : Choices) : Settings where
  load := ⟨c.uniqueIndexNames.getD true⟩
  render := {
    templateDir := c.templateDir.getD "."
    outputDir := c.outputDir.getD "."
    strict := c.strict.getD false
    dryRun := c.dryRun.getD false
    caseNaming := c.caseNaming.getD .standard }

/-- **The options of a run**, from all three places. -/
def layered (c : Choices) (a : Command.GenerateArguments) : RenderOptions where
  templateDir := a.templateDir.getD (c.templateDir.getD ".")
  outputDir := a.outputDir.getD (c.outputDir.getD ".")
  strict := a.strict || c.strict.getD false
  dryRun := a.dryRun || c.dryRun.getD false
  caseNaming := c.caseNaming.getD .standard

theorem settings_none : none.settings = .default := rfl

/-- **The arguments are put on top of the settings.** -/
theorem options_settings (c : Choices) (a : Command.GenerateArguments) :
    a.options c.settings.render = c.layered a := by
  simp only [Command.GenerateArguments.options, settings, layered, Bool.or_comm]

end Choices

/-! ### What a document says -/

/-- A field that has been read has the value that is given, or its default. -/
theorem eq_getD_of_readFieldOr {α β : Type} {fields : List (String × α)} {key : String}
    {default b : β} {read : α → Option β} (h : readFieldOr? fields key default read = some b) :
    b = ((fieldValue? fields key).bind read).getD default := by
  rw [readFieldOr?] at h
  cases hvalue : fieldValue? fields key with
  | none =>
    rw [hvalue] at h
    exact (Option.some.inj h).symm
  | some value =>
    rw [hvalue] at h
    change read value = some b at h
    rw [Option.bind_some, h, Option.getD_some]

section Documents

variable {α β : Type} [Document α]

/-- What a document says under a key of one of its tables, of which the keys are given. -/
def said? (document : α) (table : String) (keys : List String) (key : String)
    (read : α → Option β) : Option β := do
  let tables ← Document.fields? ["load", "render"] document
  let fields ← Document.fields? keys (← fieldValue? tables table)
  read (← fieldValue? fields key)

/-- What a document says about loading and rendering. -/
def Choices.ofDocument (document : α) : Choices where
  uniqueIndexNames := said? document "load" ["enforce_unique_index_names"]
    "enforce_unique_index_names" Document.boolean?
  templateDir := said? document "render" RenderOptions.fieldNames "template_dir" Document.string?
  outputDir := said? document "render" RenderOptions.fieldNames "output_dir" Document.string?
  strict := said? document "render" RenderOptions.fieldNames "strict" Document.boolean?
  dryRun := said? document "render" RenderOptions.fieldNames "dry_run" Document.boolean?
  caseNaming := said? document "render" RenderOptions.fieldNames "case_naming" fun v =>
    (Document.choice? v).bind CaseNaming.ofText?

/-- What is said in a table that is there, and in one that is not. -/
theorem said_of_table {document : α} {table key : String} {keys : List String} {read : α → Option β}
    {tables : List (String × α)} (htables : Document.fields? ["load", "render"] document = some tables) :
    said? document table keys key read = (fieldValue? tables table).bind fun value =>
      (Document.fields? keys value).bind fun fields => (fieldValue? fields key).bind read := by
  rw [said?, htables]
  rfl

/-- Loading options that have been read are what is said in their table. -/
theorem load_of_read {document : α} {tables : List (String × α)} {load : LoadOptions}
    (htables : Document.fields? ["load", "render"] document = some tables)
    (h : readFieldOr? tables "load" .default readLoad? = some load) :
    load = (Choices.ofDocument document).settings.load := by
  simp only [Choices.settings, Choices.ofDocument, said_of_table htables]
  rw [readFieldOr?] at h
  cases htable : fieldValue? tables "load" with
  | none =>
    rw [htable] at h
    exact (Option.some.inj h).symm
  | some value =>
    rw [htable] at h
    obtain ⟨fields, hfields, h⟩ := Option.bind_eq_some_iff.mp h
    obtain ⟨unique, hunique, h⟩ := Option.bind_eq_some_iff.mp h
    obtain rfl := Option.some.inj h
    simp only [Option.bind_some, hfields]
    exact congrArg LoadOptions.mk (eq_getD_of_readFieldOr hunique)

/-- Rendering options that have been read are what is said in their table. -/
theorem render_of_read {document : α} {tables : List (String × α)} {render : RenderOptions}
    (htables : Document.fields? ["load", "render"] document = some tables)
    (h : readFieldOr? tables "render" .default RenderOptions.read? = some render) :
    render = (Choices.ofDocument document).settings.render := by
  simp only [Choices.settings, Choices.ofDocument, said_of_table htables]
  rw [readFieldOr?] at h
  cases htable : fieldValue? tables "render" with
  | none =>
    rw [htable] at h
    exact (Option.some.inj h).symm
  | some value =>
    rw [htable] at h
    obtain ⟨fields, hfields, h⟩ := Option.bind_eq_some_iff.mp h
    obtain ⟨templateDir, htemplateDir, h⟩ := Option.bind_eq_some_iff.mp h
    obtain ⟨outputDir, houtputDir, h⟩ := Option.bind_eq_some_iff.mp h
    obtain ⟨strict, hstrict, h⟩ := Option.bind_eq_some_iff.mp h
    obtain ⟨dryRun, hdryRun, h⟩ := Option.bind_eq_some_iff.mp h
    obtain ⟨caseNaming, hcaseNaming, h⟩ := Option.bind_eq_some_iff.mp h
    obtain rfl := Option.some.inj h
    simp only [Option.bind_some, hfields]
    congr 1
    · exact eq_getD_of_readFieldOr htemplateDir
    · exact eq_getD_of_readFieldOr houtputDir
    · exact eq_getD_of_readFieldOr hstrict
    · exact eq_getD_of_readFieldOr hdryRun
    · exact eq_getD_of_readFieldOr hcaseNaming

/-- **Settings that have been read are the choices of their document.** -/
theorem eq_settings_of_read {document : α} {s : Settings} (h : read? document = some s) :
    s = (Choices.ofDocument document).settings := by
  obtain ⟨tables, htables, h⟩ := Option.bind_eq_some_iff.mp h
  obtain ⟨load, hload, h⟩ := Option.bind_eq_some_iff.mp h
  obtain ⟨render, hrender, h⟩ := Option.bind_eq_some_iff.mp h
  obtain rfl := Option.some.inj h
  rw [load_of_read htables hload, render_of_read htables hrender]

end Documents

end Settings

end Blueprint
