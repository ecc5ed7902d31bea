import Blueprint.Load.Assembly
import Blueprint.Render.Run

/-!
# Events

What happens during a command is told as a list of events, in the order in which it
happens. Loading tells of every pass and every stage it completes (`loadEvents`), rendering
of its start, of every file, and of its end if it comes to it (`renderEvents`). An event
has a level and named fields, and is written to a log as one line of JSON.
-/

namespace Blueprint

/-- How much an event matters. -/
inductive EventLevel where
  | debug
  | info
deriving DecidableEq

/-- The word for a level. -/
def EventLevel.text : EventLevel → String
  | .debug => "DEBUG"
  | .info => "INFO"

/-- **Something that happens during a command.** -/
inductive Event where
  /-- The outline of a project is loaded. -/
  | outlineComplete (dataTypes objects files : Nat)
  /-- So many links are loaded. -/
  | linksComplete (links : Nat)
  /-- So many indexes are loaded. -/
  | indexesComplete (indexes : Nat)
  /-- Loading has come to a stage. -/
  | stageReached (stage : AssemblyStage)
  /-- A project is loaded. -/
  | projectLoaded (project : String) (objects files : Nat)
  /-- A run of the renderer starts. -/
  | renderStarted (project : String) (files : Nat) (dryRun : Bool)
  /-- A file is rendered. -/
  | fileRendered (file : RenderedFile)
  /-- A run of the renderer comes to its end. -/
  | renderFinished (files : Nat) (bytes : UInt64)
  /-- The schema of template data is written to a file. -/
  | schemaWritten (path : String)
deriving DecidableEq

namespace Event

/-- The level of an event: the steps of longer work are for those who look closely. -/
def level : Event → EventLevel
  | .projectLoaded .. | .renderStarted .. | .renderFinished .. | .schemaWritten _ => .info
  | .outlineComplete .. | .linksComplete _ | .indexesComplete _ | .stageReached _
  | .fileRendered _ => .debug

/-- The fields of the end of a pass. -/
def passFields (pass : Nat) (counts : List (String × Nat)) : Entries :=
  ("event", .string "pass_complete") :: ("pass", naturalTree pass) ::
    counts.map fun (name, count) => (name, naturalTree count)

/-- **The fields of an event**, in a run of a name. -/
def fields (runId : String) : Event → Entries
  | .outlineComplete dataTypes objects files =>
    passFields 1 [("data_types", dataTypes), ("objects", objects), ("files", files)]
  | .linksComplete links => passFields 2 [("links", links)]
  | .indexesComplete indexes => passFields 3 [("indexes", indexes)]
  | .stageReached stage =>
    [("event", .string "assembly_stage"), ("stage", .string stage.text)]
  | .projectLoaded project objects files =>
    [("event", .string "project_loaded"), ("project", .string project),
      ("objects", naturalTree objects), ("files", naturalTree files)]
  | .renderStarted project files dryRun =>
    [("event", .string "render_started"), ("run_id", .string runId),
      ("project", .string project), ("files", naturalTree files), ("dry_run", .boolean dryRun)]
  | .fileRendered file =>
    [("event", .string "file_rendered"), ("position", .number (wordNumber file.position)),
      ("object", .string (file.object.getD "")), ("output", .string file.output),
      ("bytes", .number (wordNumber file.bytes)), ("written", .boolean file.written)]
  | .renderFinished files bytes =>
    [("event", .string "render_finished"), ("run_id", .string runId),
      ("files", naturalTree files), ("bytes", .number (wordNumber bytes))]
  | .schemaWritten path =>
    [("event", .string "context_schema_written"), ("path", .string path)]

/-- **The line of an event in a log**, at a time. -/
def line (runId : String) (time : Timestamp) (e : Event) : String :=
  Json.compact (.mapping [("timestamp", .string time.text), ("level", .string e.level.text),
    ("fields", .mapping (e.fields runId))]) ++ "\n"

end Event

/-! ### What loading and rendering tell -/

/-- The length of several lists together. -/
def totalLength {α : Type} (lists : List (List α)) : Nat := lists.flatten.length

/-- The events of the third pass. -/
def indexEvents (options : LoadOptions) (outline : Outline) (links : List (List Link)) :
    List Event :=
  match Load.indexes options outline links with
  | .error _ => []
  | .ok indexes =>
    [.indexesComplete (totalLength indexes), .stageReached .pass3Complete, .stageReached .ready]

/-- The events of the second pass and of those after it. -/
def linkEvents (options : LoadOptions) (outline : Outline) : List Event :=
  match Load.links outline with
  | .error _ => []
  | .ok links =>
    .linksComplete (totalLength links) :: .stageReached .pass2Complete ::
      indexEvents options outline links

/-- **The events of loading a definition**, up to the pass that fails. -/
def loadEvents (options : LoadOptions) (definition : Tree) : List Event :=
  match Load.outline definition with
  | .error _ => []
  | .ok outline =>
    .outlineComplete outline.dataTypes.length outline.objects.length outline.files.length ::
      .stageReached .pass1Complete :: linkEvents options outline

/-- The last event of a run of the renderer, which a failure leaves out. -/
def finishEvents (outcome : Render.Outcome) : List Event :=
  match outcome.report "" .epoch with
  | .error _ => []
  | .ok report => [.renderFinished report.files.length report.bytesTotal]

/-- **The events of rendering a project.** -/
def renderEvents (options : RenderOptions) (project : Project) (outcome : Render.Outcome) :
    List Event :=
  .renderStarted project.name project.files.length options.dryRun ::
    (outcome.files.map .fileRendered ++ finishEvents outcome)

end Blueprint
