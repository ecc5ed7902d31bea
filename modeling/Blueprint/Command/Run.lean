import Blueprint.Command.Arguments
import Blueprint.Command.Event
import Blueprint.Command.Formats
import Blueprint.Project.Dump
import Blueprint.Schema

/-!
# Running commands

`generate` and `check` open a project: they find the settings, read the definition and load
it (`openProject`). `check` stops there; `generate` renders the project under the options
of the settings, as far as its arguments do not say otherwise (`GenerateArguments.options`).
`context-schema` needs no project.

A command never touches anything but the disk it is given, and what it did is all in its
`Outcome`: the disk, what it prints, what it tells the log, and the failure that ended it.
A log file is made or opened before anything else happens.

What the texts of settings and definitions mean is left to the readers that a command is run
with (`Formats`), as what a template makes of a value is left to an expansion.
-/

namespace Blueprint

namespace Command

/-! ### Failures -/

/-- **Why a command fails.** -/
inductive Failure where
  | settings (error : SettingsError)
  /-- The log file cannot be opened. -/
  | log (fault : DiskFault)
  /-- The definition cannot be read. -/
  | unreadable (fault : DiskFault)
  /-- The definition is no YAML document that a tree can hold. -/
  | invalidYaml
  | load (error : LoadError)
  | render (error : RenderError)
  /-- The schema cannot be written. -/
  | unwritable (fault : DiskFault)

/-- The words for what a document or a template is wrong about. -/
structure Wording where
  settings : String
  definition : String
  template : TemplateFault → String

/-- The words that the program uses. -/
def Wording.plain : Wording where
  settings := "not the settings of a project in TOML"
  definition := "not a definition in YAML"
  template := TemplateFault.message

/-- **The message of a failure.** -/
def Failure.message (w : Wording) : Failure → String
  | .settings (.unreadable path fault) =>
    "cannot read settings <" ++ path ++ ">: " ++ fault.message
  | .settings (.invalid path) => "invalid settings <" ++ path ++ ">: " ++ w.settings
  | .log fault => "cannot open log file: " ++ fault.message
  | .unreadable fault => "can't read project file: " ++ fault.message
  | .invalidYaml => "invalid YAML: " ++ w.definition
  | .load error => error.message
  | .render error => error.message w.template
  | .unwritable fault => "io error: " ++ fault.message

/-- **The complaint of a failed command**, which names the definition if there is one. -/
def complaint (w : Wording) (action : Action) (failure : Failure) : String :=
  let message := "error: " ++ failure.message w
  match action.definition? with
  | some path => message ++ " in project file <" ++ path ++ ">"
  | none => message

/-! ### Projects -/

section Sources

variable (formats : Formats)

/-- The settings for a definition. -/
def findSettings (d : Disk) (config : Option String) (definition : String) :
    Except Failure Settings :=
  (Settings.findWith formats.toml? d config definition).mapError .settings

/-- The document that a definition is. -/
def readDefinition (d : Disk) (path : String) : Except Failure Tree :=
  match d.readText path with
  | .error fault => .error (.unreadable fault)
  | .ok text =>
    match formats.definition? text with
    | some definition => .ok definition
    | none => .error .invalidYaml

/-- The settings and the document of a definition. -/
def readSources (d : Disk) (config : Option String) (definition : String) :
    Except Failure (Settings × Tree) := do
  let settings ← findSettings formats d config definition
  return (settings, ← readDefinition formats d definition)

/-- **A project opened**, with its settings. -/
def openProject (d : Disk) (config : Option String) (definition : String) :
    Except Failure (Settings × Project) := do
  let (settings, document) ← readSources formats d config definition
  let project ← (load settings.load document).mapError .load
  return (settings, project)

end Sources

/-- The event of an opened project. -/
def loadedEvents : Except LoadError Project → List Event
  | .error _ => []
  | .ok project =>
    [.projectLoaded project.name project.objects.length project.files.length]

/-- The events of opening a project. -/
def openEvents (formats : Formats) (d : Disk) (config : Option String) (definition : String) :
    List Event :=
  match readSources formats d config definition with
  | .error _ => []
  | .ok (settings, document) =>
    loadEvents settings.load document ++ loadedEvents (load settings.load document)

/-! ### Commands -/

/-- **What a command did.** -/
structure Outcome where
  disk : Disk
  /-- What is printed, in parts with a line break behind each. -/
  output : List String
  events : List Event
  failure : Option Failure

/-- The outcome of a command that fails on a disk without a change. -/
def failed (d : Disk) (events : List Event) (failure : Failure) : Outcome :=
  ⟨d, [], events, some failure⟩

/-- **The options of a run**: those of the settings, where the arguments say nothing else. -/
def GenerateArguments.options (a : GenerateArguments) (o : RenderOptions) : RenderOptions where
  templateDir := a.templateDir.getD o.templateDir
  outputDir := a.outputDir.getD o.outputDir
  strict := o.strict || a.strict
  dryRun := o.dryRun || a.dryRun
  caseNaming := o.caseNaming

/-- The line about a file. -/
def fileLine (f : RenderedFile) : String :=
  "* " ++ (if f.written then "Generated " else "Rendered ") ++ f.scope.text ++ " file " ++ f.output

/-- What is printed about a run. -/
def reportLines (report : RenderReport) : List String :=
  report.files.map fileLine ++
    [naturalText report.files.length ++ " file(s), run " ++ report.runId]

/-- The project shown, if it is to be shown. -/
def dumpLines (shown : Bool) (project : Project) : List String :=
  if shown then [project.dump] else []

/-- **The command `generate`.** -/
def generateFiles (formats : Formats) (expand : Render.Expansion) (runId : String)
    (verbose : Bool) (a : GenerateArguments) (d : Disk) : Outcome :=
  let events := openEvents formats d a.config a.definition
  match openProject formats d a.config a.definition with
  | .error failure => failed d events failure
  | .ok (settings, project) =>
    let options := a.options settings.render
    let outcome := Render.renderProject expand options project d
    let shown := dumpLines verbose project
    let events := events ++ renderEvents options project outcome
    match outcome.report runId .epoch with
    | .error error => ⟨outcome.disk, shown, events, some (.render error)⟩
    | .ok report => ⟨outcome.disk, shown ++ reportLines report, events, none⟩

/-- The line about a project that is checked. -/
def validLine (project : Project) : String :=
  "project <" ++ project.name ++ "> is valid: " ++ naturalText project.objects.length ++
    " object(s), " ++ naturalText project.files.length ++ " file(s)"

/-- **The command `check`.** -/
def checkProject (formats : Formats) (verbose : Bool) (a : CheckArguments) (d : Disk) :
    Outcome :=
  let events := openEvents formats d a.config a.definition
  match openProject formats d a.config a.definition with
  | .error failure => failed d events failure
  | .ok (_, project) =>
    ⟨d, dumpLines (a.dump || verbose) project ++ [validLine project], events, none⟩

/-- **The command `context-schema`.** -/
def writeSchema (out : Option String) (d : Disk) : Outcome :=
  let schema := Json.pretty contextSchema
  match out with
  | none => ⟨d, [schema], [], none⟩
  | some path =>
    match d.writeFile path schema.toUTF8 with
    | .error fault => failed d [] (.unwritable fault)
    | .ok written => ⟨written, [], [.schemaWritten path], none⟩

/-- A command that has its arguments. -/
def Action.run (formats : Formats) (expand : Render.Expansion) (runId : String) (verbose : Bool)
    (d : Disk) : Action → Outcome
  | .generate a => generateFiles formats expand runId verbose a d
  | .check a => checkProject formats verbose a d
  | .contextSchema out => writeSchema out d

/-! ### Invocations -/

/-- The name of the program. -/
def programName : String := "modelgen"

/-- The version of the program. -/
def programVersion : String := "0.1.0"

/-- The first line of what a command prints if asked for more words. -/
def greeting (verbose : Bool) : List String :=
  if verbose then [programName ++ " V" ++ programVersion] else []

/-- The answer to who asks for the version. -/
def versionLine : String := programName ++ " " ++ programVersion

/-- The answer to who asks for help. -/
def helpText : String :=
  "Generate files from a YAML project model\n\n" ++
  "Usage: " ++ programName ++ " [OPTIONS] <COMMAND>\n\n" ++
  "Commands:\n" ++
  "  generate        Load a project definition and render its files\n" ++
  "  check           Load and validate a project definition without rendering\n" ++
  "  context-schema  Print the JSON schema of the template context\n\n" ++
  "Options:\n" ++
  "      --verbose          Print the loaded project and debug events\n" ++
  "      --log-file <FILE>  Append JSON log events to this file\n" ++
  "  -h, --help             Print help\n" ++
  "  -V, --version          Print version"

/-- The disk with the log file on it. -/
def openLog (d : Disk) : Option String → Except DiskFault Disk
  | none => .ok d
  | some path => d.appendFile path .empty

/-- **An invocation carried out.** -/
def Invocation.runWith (formats : Formats) (expand : Render.Expansion) (runId : String)
    (i : Invocation) (d : Disk) : Outcome :=
  match openLog d i.logFile with
  | .error fault => failed d [] (.log fault)
  | .ok opened =>
    let outcome := i.action.run formats expand runId i.verbose opened
    { outcome with output := greeting i.verbose ++ outcome.output }

/-- An invocation carried out with the readers of this library. -/
def Invocation.run (expand : Render.Expansion) (runId : String) (i : Invocation) (d : Disk) :
    Outcome :=
  i.runWith .plain expand runId d

/-! ### Logs -/

/-- Two paths lead a new file to one place. -/
def samePlace (d : Disk) (path other : String) : Bool :=
  match d.fileTarget path, d.fileTarget other with
  | .ok place, .ok otherPlace => place == otherPlace
  | _, _ => false

/-- A file was written where the log file was, which nobody can find then. -/
def logIsReplaced (d : Disk) (path : String) (events : List Event) : Bool :=
  events.any fun event =>
    match event with
    | .fileRendered file => file.written && samePlace d path file.output
    | _ => false

/-- **The disk with the log**: the lines of all events at the end of the log file. -/
def Outcome.withLog (o : Outcome) (logFile : Option String) (runId : String)
    (time : Timestamp) : Disk :=
  match logFile with
  | none => o.disk
  | some path =>
    if logIsReplaced o.disk path o.events then o.disk
    else
      let text := String.join (o.events.map (Event.line runId time))
      match o.disk.appendFile path text.toUTF8 with
      | .error _ => o.disk
      | .ok logged => logged

/-- The text that an outcome prints. -/
def Outcome.text (o : Outcome) : String := String.join (o.output.map fun part => part ++ "\n")

/-- The status that a command ends with. -/
def Outcome.status (o : Outcome) : Nat := if o.failure.isSome then 1 else 0

/-- **What the arguments of the program lead to.** -/
inductive Answer where
  /-- A text is printed, and nothing else happens. -/
  | text (value : String)
  /-- The arguments make no sense. -/
  | misuse
  /-- A command is run. -/
  | command (invocation : Invocation)

/-- The answer to arguments. -/
def answer (arguments : List String) : Answer :=
  match readInvocation arguments with
  | .ok invocation => .command invocation
  | .error .help => .text (helpText ++ "\n")
  | .error .version => .text (versionLine ++ "\n")
  | .error .misuse => .misuse

end Command

end Blueprint
