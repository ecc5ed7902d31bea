import Blueprint.Disk.Write
import Blueprint.Project.View
import Blueprint.Render.Error
import Blueprint.Render.Options
import Blueprint.Render.Report

/-!
# Render runs

A run renders the declared files of a project in their order. A declaration is rendered
once for the project, or once for each object in the order of the objects; its template is
read once, from the disk as the earlier declarations left it, and serves all its jobs.

A **job** expands the output path, refuses one that is blank, expands the template, and
then writes the file, unless the run is a dry one. The first failure ends the run, and
what was written before it stays.

How a template is expanded is a parameter (`Expansion`): nothing here depends on it.

| notion | meaning |
|---|---|
| `Outcome` | the disk and the files after some steps, and the failure that ended them |
| `Step` | a step from a disk to an outcome |
| `RenderJob.run` | one job |
| `renderFile` | the jobs of one declaration |
| `renderProject` | the run |
-/

namespace Blueprint

namespace Render

/-- **A way to expand templates**: the text of a template with some data. -/
abbrev Expansion := RenderOptions → String → Tree → Except TemplateFault String

/-! ### Steps and their outcomes -/

/-- **What some steps of a run lead to.** -/
structure Outcome where
  /-- The disk after them. -/
  disk : Disk
  /-- The files that were rendered, in order. -/
  files : List RenderedFile
  /-- The failure that ended them early. -/
  failure : Option RenderError

/-- **The report of a run** that came to its end, under a name and a time. -/
def Outcome.report (o : Outcome) (runId : String) (startedAt : Timestamp) :
    Except RenderError RenderReport :=
  match o.failure with
  | some error => .error error
  | none => .ok (o.files.foldl RenderReport.record (.new runId startedAt))

/-- A step of a run. -/
abbrev Step := Disk → Outcome

/-- An outcome, and another step if it is no failure. -/
def Outcome.andThen (o : Outcome) (step : Step) : Outcome :=
  match o.failure with
  | some _ => o
  | none =>
    let next := step o.disk
    { next with files := o.files ++ next.files }

/-- **Steps one after another**, up to the first failure. -/
def steps : List Step → Step
  | [], disk => ⟨disk, [], none⟩
  | step :: rest, disk => (step disk).andThen (steps rest)

/-- A failure at once. -/
def fail (error : RenderError) : Step := fun disk => ⟨disk, [], some error⟩

/-! ### Jobs -/

/-- **One file to render**: a declaration by its position, its template, and the data. -/
structure RenderJob where
  position : Nat
  file : OutputFile
  /-- The path of the template. -/
  input : String
  /-- The text of the template. -/
  template : String
  /-- The name of the object, if the file is one for each. -/
  object : Option String
  context : Tree

namespace RenderJob

def target (job : RenderJob) : RenderTarget := ⟨job.position, job.object⟩

/-- The path that a job writes to. -/
def outputPath (expand : Expansion) (options : RenderOptions) (job : RenderJob) :
    Except RenderError String :=
  match expand options job.file.output job.context with
  | .error fault => .error (.outputPath job.target fault)
  | .ok text =>
    if trim text = "" then .error (.emptyOutputPath job.target)
    else .ok (Path.join options.outputDir (trim text))

/-- **What a job writes, and where.** -/
def product (expand : Expansion) (options : RenderOptions) (job : RenderJob) :
    Except RenderError (String × String) := do
  let output ← job.outputPath expand options
  match expand options job.template job.context with
  | .error fault => .error (.template job.target job.input fault)
  | .ok content => return (output, content)

/-- The entry of a job in the report. -/
def entry (options : RenderOptions) (job : RenderJob) (output content : String) :
    RenderedFile where
  position := UInt64.ofNat job.position
  scope := job.file.scope
  input := job.input
  output := output
  object := job.object
  bytes := UInt64.ofNat content.utf8ByteSize
  written := !options.dryRun

/-- The content of a file written, if files are written at all. -/
def write (options : RenderOptions) (disk : Disk) (output content : String) :
    Disk × Option DiskFault :=
  if options.dryRun then (disk, none) else disk.writeAtomic output content.toUTF8

/-- **A job done.** -/
def run (expand : Expansion) (options : RenderOptions) (job : RenderJob) : Step := fun disk =>
  match job.product expand options with
  | .error error => fail error disk
  | .ok (output, content) =>
    match write options disk output content with
    | (written, some fault) => ⟨written, [], some (.unwritable output fault)⟩
    | (written, none) => ⟨written, [job.entry options output content], none⟩

end RenderJob

/-! ### Declarations and runs -/

/-- What a declaration is rendered with: the names of objects, and the data. -/
def contexts (view : ProjectView) : FileScope → List (Option String × Tree)
  | .project => [(none, projectContext view)]
  | .object => view.objects.map fun object => (some object.name, objectContext view object)

/-- **The jobs of a declaration**, with a template. -/
def jobs (options : RenderOptions) (view : ProjectView) (position : Nat) (file : OutputFile)
    (template : String) : List RenderJob :=
  (contexts view file.scope).map fun (object, context) =>
    ⟨position, file, Path.join options.templateDir file.input, template, object, context⟩

/-- **A declaration rendered**: its template read, and its jobs done. -/
def renderFile (expand : Expansion) (options : RenderOptions) (view : ProjectView)
    (position : Nat) (file : OutputFile) : Step := fun disk =>
  let input := Path.join options.templateDir file.input
  match disk.readText input with
  | .error fault => fail (.unreadable ⟨position, none⟩ input fault) disk
  | .ok template =>
    steps ((jobs options view position file template).map fun job => job.run expand options) disk

/-- **A project rendered**, declaration by declaration.

A reference that leads nowhere leaves a project without a view, and the program stops before it
renders anything. The run of such a project is one with the empty view here, and stands for
nothing; a project that was loaded always has its view. -/
def renderProject (expand : Expansion) (options : RenderOptions) (project : Project) : Step :=
  let view := ProjectView.ofProject project
  steps (project.files.mapIdx fun i file => renderFile expand options view (i + 1) file)

end Render

end Blueprint
