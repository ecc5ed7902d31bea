import Blueprint.Command.Run

/-!
# What a command looks at

Before a command is run on a model of the disk, the model has to agree with the disk
wherever the command looks. Where that is may depend on what the model says already: the
settings name directories, and the definition names files. So the paths of a command are
those that can be told from a disk, and a disk is good enough when it agrees with the real
one on all of them.
-/

namespace Blueprint

namespace Command

/-- The paths that opening a project looks at. -/
def projectPaths (config : Option String) (definition : String) : List String :=
  [definition, config.getD (Settings.besidePath definition)]

/-- A path and the temporary one beside it. -/
def writtenPaths (path : String) : List String := path :: (Disk.temporaryPath? path).toList

/-- The path at which a failed run stopped. -/
def failurePath? : Option RenderError → Option String
  | some (.unwritable path _) => some path
  | _ => none

/-- The paths that rendering a project looks at, as far as a disk tells. -/
def renderPaths (expand : Render.Expansion) (options : RenderOptions) (project : Project)
    (d : Disk) : List String :=
  let outcome := Render.renderProject expand options project d
  let outputs := outcome.files.map (·.output) ++ (failurePath? outcome.failure).toList
  project.files.map (fun f => Path.join options.templateDir f.input) ++
    outputs.flatMap writtenPaths

/-- **The paths that a command looks at**, as far as a disk tells. -/
def Action.paths (formats : Formats) (expand : Render.Expansion) (d : Disk) :
    Action → List String
  | .generate a =>
    projectPaths a.config a.definition ++
      match openProject formats d a.config a.definition with
      | .error _ => []
      | .ok (settings, project) => renderPaths expand (a.options settings.render) project d
  | .check a => projectPaths a.config a.definition
  | .contextSchema out => out.toList

/-- The paths that an invocation looks at, as far as a disk tells. -/
def Invocation.paths (formats : Formats) (expand : Render.Expansion) (d : Disk)
    (i : Invocation) : List String :=
  i.logFile.toList ++ i.action.paths formats expand d

/-! ### What has changed -/

/-- Something is at a place that was not there before. -/
def isNew (before : Disk) (place : Place) (entry : DiskEntry) : Bool :=
  match before.entry? place, entry with
  | some .directory, .directory => false
  | some (.file old), .file new => old != new
  | _, _ => true

/-- What a disk has that another one has not. -/
def additions (before after : Disk) : List (Place × DiskEntry) :=
  after.entries.filter fun (place, entry) => isNew before place entry

/-- The places where a disk has nothing and another one has something. -/
def removals (before after : Disk) : List Place :=
  (before.entries.map (·.1)).filter fun place => (after.entry? place).isNone

end Command

end Blueprint
