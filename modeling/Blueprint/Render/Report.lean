import Blueprint.Json.Reader
import Blueprint.Json.Writer
import Blueprint.Project
import Blueprint.Record
import Blueprint.Timestamp

/-!
# Reports of render runs

A run of the renderer is reported file by file: which declaration the file comes from,
for which object, where it was read and written and how large it is. Reports are stored
as JSON and read back; a file without an object has no `object` field there.

Sizes are words of 64 bits, and so is their total.
-/

namespace Blueprint

/-- **One file of a run.** The position is that of its declaration, counted from one. -/
structure RenderedFile where
  position : UInt64
  scope : FileScope
  input : String
  output : String
  object : Option String
  bytes : UInt64
  written : Bool
deriving DecidableEq

/-- **The report of a run.** -/
structure RenderReport where
  runId : String
  startedAt : Timestamp
  files : List RenderedFile
deriving DecidableEq

namespace RenderedFile

/-- The names of the fields, in order. -/
def fieldNames : List String :=
  ["position", "scope", "input", "output", "object", "bytes", "written"]

/-- **A file read from a document.** Only the object may be missing. -/
def read? {α : Type} [Document α] (value : α) : Option RenderedFile := do
  let fields ← Document.fields? fieldNames value
  let position ← readField? fields "position" word?
  let scope ← readField? fields "scope" fun v => (Document.choice? v).bind FileScope.ofText?
  let input ← readField? fields "input" Document.string?
  let output ← readField? fields "output" Document.string?
  let object ← readFieldOr? fields "object" none (optional? Document.string?)
  let bytes ← readField? fields "bytes" word?
  let written ← readField? fields "written" Document.boolean?
  return ⟨position, scope, input, output, object, bytes, written⟩

/-- The entry of the object, if there is one. -/
def objectEntry (f : RenderedFile) : Entries :=
  match f.object with
  | some name => [("object", .string name)]
  | none => []

/-- A file as a tree. -/
def toTree (f : RenderedFile) : Tree :=
  .mapping ([("position", .number (wordNumber f.position)), ("scope", .string f.scope.text),
    ("input", .string f.input), ("output", .string f.output)] ++ f.objectEntry ++
    [("bytes", .number (wordNumber f.bytes)), ("written", .boolean f.written)])

/-- A file from a JSON text. -/
def ofJson? (text : String) : Option RenderedFile := do
  read? (← Json.readNode? text)

end RenderedFile

namespace RenderReport

/-- A report without files. -/
def new (runId : String) (startedAt : Timestamp) : RenderReport := ⟨runId, startedAt, []⟩

/-- A report with one more file. -/
def record (r : RenderReport) (f : RenderedFile) : RenderReport :=
  { r with files := r.files ++ [f] }

/-- **Files are recorded in order**, after those that are there. -/
theorem foldl_record (r : RenderReport) (files : List RenderedFile) :
    files.foldl record r = { r with files := r.files ++ files } := by
  induction files generalizing r with
  | nil => rw [List.foldl_nil, List.append_nil]
  | cons f files ih =>
    rw [List.foldl_cons, ih, record]
    simp only [List.append_assoc, List.singleton_append]

/-- **How many files of a scope there are.** -/
def count (r : RenderReport) (scope : FileScope) : Nat :=
  (r.files.filter fun f => f.scope = scope).length

/-- **The size of all files together**, as a word of 64 bits. -/
def bytesTotal (r : RenderReport) : UInt64 :=
  (r.files.map (·.bytes)).foldl (· + ·) 0

/-- The names of the fields, in order. -/
def fieldNames : List String := ["run_id", "started_at", "files"]

/-- **A report read from a document.** -/
def read? {α : Type} [Document α] (value : α) : Option RenderReport := do
  let fields ← Document.fields? fieldNames value
  let runId ← readField? fields "run_id" Document.string?
  let startedAt ← readField? fields "started_at" fun v =>
    (Document.string? v).bind Timestamp.readLoose?
  let files ← readField? fields "files" (list? RenderedFile.read?)
  return ⟨runId, startedAt, files⟩

/-- A report as a tree. -/
def toTree (r : RenderReport) : Tree :=
  .mapping [("run_id", .string r.runId), ("started_at", .string r.startedAt.text),
    ("files", .sequence (r.files.map RenderedFile.toTree))]

/-- The JSON text of a report. -/
def toJson (r : RenderReport) : String := Json.compact r.toTree

/-- A report from its JSON text. -/
def ofJson? (text : String) : Option RenderReport := do
  read? (← Json.readNode? text)

end RenderReport

end Blueprint
