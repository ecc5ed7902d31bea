import Blueprint.Disk
import Blueprint.Load.Index
import Blueprint.Render.Options
import Blueprint.Toml.Reader

/-!
# Settings

A settings file says how definitions are loaded and how files are rendered. It has two
tables, `load` and `render`, and a default for everything in them; whatever else it holds
is passed over.

The file is named, or it is the one that stands beside the definition, if there is one
(`Settings.findWith`). Whatever makes documents of texts may be used to read it; `Settings.find`
reads it with the TOML reader of this library.
-/

namespace Blueprint

/-- **The settings of a project.** -/
structure Settings where
  load : LoadOptions
  render : RenderOptions
deriving DecidableEq

namespace Settings

/-- The settings that hold when nothing is said. -/
def default : Settings := ⟨.default, .default⟩

/-- The name of a settings file that is looked for beside the definition. -/
def fileName : String := "modelgen.toml"

/-- The options of the loader. -/
def readLoad? {α : Type} [Document α] (value : α) : Option LoadOptions := do
  let fields ← Document.fields? ["enforce_unique_index_names"] value
  let unique ← readFieldOr? fields "enforce_unique_index_names" LoadOptions.default.uniqueIndexNames
    Document.boolean?
  return ⟨unique⟩

/-- **Settings read from a document.** -/
def read? {α : Type} [Document α] (value : α) : Option Settings := do
  let fields ← Document.fields? ["load", "render"] value
  let load ← readFieldOr? fields "load" .default readLoad?
  let render ← readFieldOr? fields "render" .default RenderOptions.read?
  return ⟨load, render⟩

end Settings

/-! ### Settings on a disk -/

/-- **Why settings cannot be had.** -/
inductive SettingsError where
  | unreadable (path : String) (fault : DiskFault)
  | invalid (path : String)
deriving DecidableEq

namespace Settings

/-- The path of the settings that stand beside a definition. -/
def besidePath (definition : String) : String :=
  Path.join ((Path.parent? definition).getD "") fileName

/-- The path of the settings for a definition: the one that is named, or the one beside the
definition, if a file is there. -/
def path? (d : Disk) (named : Option String) (definition : String) : Option String :=
  match named with
  | some path => some path
  | none =>
    let path := besidePath definition
    if d.isFile path then some path else none

section Documents

variable {α : Type} [Document α] (document? : String → Option α)

/-- Settings from a text that is found at a path, of which a reader makes a document. -/
def ofTextWith (path text : String) : Except SettingsError Settings :=
  match (document? text).bind read? with
  | some settings => .ok settings
  | none => .error (.invalid path)

/-- Settings from the file at a path. -/
def readAt (d : Disk) (path : String) : Except SettingsError Settings :=
  match d.readText path with
  | .error fault => .error (.unreadable path fault)
  | .ok text => ofTextWith document? path text

/-- **The settings for a definition**, and the default without a file. -/
def findWith (d : Disk) (named : Option String) (definition : String) :
    Except SettingsError Settings :=
  match path? d named definition with
  | none => .ok .default
  | some path => readAt document? d path

end Documents

/-- Settings from a TOML text that is found at a path. -/
def ofText (path text : String) : Except SettingsError Settings :=
  ofTextWith Toml.read? path text

/-- The settings for a definition, in TOML. -/
def find (d : Disk) (named : Option String) (definition : String) :
    Except SettingsError Settings :=
  findWith Toml.read? d named definition

end Settings

end Blueprint
