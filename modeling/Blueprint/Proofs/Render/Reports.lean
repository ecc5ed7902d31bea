import Blueprint.Proofs.Json.Written
import Blueprint.Proofs.Timestamp.Text
import Blueprint.Render.Report

/-!
# Reports read back

A report is stored as the JSON text of a mapping and read back field by field. Every field comes
back from its own kind of text, and each kind is a lemma elsewhere:

| field | text | read back by |
|---|---|---|
| identifier, paths, object | a string with escapes | `Blueprint.Json.readNode?_compact` |
| position, size | the digits of a word | `Blueprint.Json.toNumber?_ofInteger` |
| start | an instant in UTC | `Blueprint.Timestamp.readLoose?_text` |
| scope | one of two words | by cases |

What is left here is the record: which fields are there, and that they are found by name. The only
one that may be missing is the object of a file, which then is no member of the text
(`Blueprint.RenderedFile.mem_members_object`) and reads as nothing.
-/

namespace Blueprint

open Json

/-- A word is read back from its digits. -/
theorem word?_ofInteger (n : UInt64) : word? (Node.number (.ofInteger n.toNat)) = some n := by
  have hnumber : Document.number? (Node.number (.ofInteger n.toNat)) = some (wordNumber n) :=
    toNumber?_ofInteger _
  have hnat : (wordNumber n).toNat? = some n.toNat := by
    change (if (0 : Int) ≤ n.toNat then some (n.toNat : Int).toNat else none) = some n.toNat
    rw [if_pos (Int.natCast_nonneg _), Int.toNat_natCast]
  rw [word?, hnumber]
  change ((wordNumber n).toNat?.bind fun k => some (UInt64.ofNat k)) = some n
  rw [hnat, Option.bind_some, UInt64.ofNat_toNat]

namespace RenderedFile

/-- **The members of a file** in a text. -/
def members (f : RenderedFile) : List (Option String × Node) :=
  [(some "position", .number (.ofInteger f.position.toNat)),
    (some "scope", .string (some f.scope.text)), (some "input", .string (some f.input)),
    (some "output", .string (some f.output))] ++
  (f.object.toList.map fun name => (some "object", .string (some name))) ++
  [(some "bytes", .number (.ofInteger f.bytes.toNat)), (some "written", .boolean f.written)]

/-- **A file without an object has no such member.** -/
theorem mem_members_object (f : RenderedFile) :
    some "object" ∈ f.members.map (·.1) ↔ f.object.isSome = true := by
  obtain ⟨position, scope, input, output, object, bytes, written⟩ := f
  cases object <;> simp [members]

/-- The members are those of the tree. -/
theorem ofTree?_toTree (f : RenderedFile) : Node.ofTree? f.toTree = some (.object f.members) := by
  obtain ⟨position, scope, input, output, object, bytes, written⟩ := f
  cases object <;> rfl

/-- The fields are found by name, whatever stands for the two words. -/
theorem read?_object (position bytes : Node) (scope : FileScope) (input output : String)
    (object : Option String) (written : Bool) :
    read? (Node.object ([(some "position", position), (some "scope", .string (some scope.text)),
      (some "input", .string (some input)), (some "output", .string (some output))] ++
      (object.toList.map fun name => (some "object", .string (some name))) ++
      [(some "bytes", bytes), (some "written", .boolean written)])) =
    (word? position).bind fun position => (word? bytes).bind fun bytes =>
      some ⟨position, scope, input, output, object, bytes, written⟩ := by
  cases object <;> cases scope <;> rfl

/-- **A file is read back from its members.** -/
theorem read?_members (f : RenderedFile) : read? (Node.object f.members) = some f := by
  rw [members, read?_object, word?_ofInteger, word?_ofInteger]
  rfl

/-- A file is read back from its own text. -/
theorem ofJson?_compact (f : RenderedFile) : ofJson? (compact f.toTree) = some f := by
  rw [ofJson?, readNode?_compact f.ofTree?_toTree]
  exact f.read?_members

end RenderedFile

namespace RenderReport

/-- The members of a report in a text. -/
def members (r : RenderReport) : List (Option String × Node) :=
  [(some "run_id", .string (some r.runId)), (some "started_at", .string (some r.startedAt.text)),
    (some "files", .array (r.files.map fun f => .object f.members))]

/-- The nodes of the files, in order. -/
theorem ofItems?_files (files : List RenderedFile) :
    Node.ofItems? (files.map RenderedFile.toTree) =
      some (files.map fun f => .object f.members) := by
  induction files with
  | nil => rfl
  | cons f files ih =>
    rw [List.map_cons, Node.ofItems?, f.ofTree?_toTree, ih]
    rfl

/-- The members are those of the tree. -/
theorem ofTree?_toTree (r : RenderReport) : Node.ofTree? r.toTree = some (.object r.members) := by
  have hfiles : Node.ofTree? (.sequence (r.files.map RenderedFile.toTree)) =
      some (.array (r.files.map fun f => .object f.members)) := by
    rw [Node.ofTree?, ofItems?_files, Option.map_some]
  rw [toTree, Node.ofTree?, Node.ofEntries?, Node.ofEntries?, Node.ofEntries?, hfiles]
  rfl

/-- The files are read back in order. -/
theorem list?_members (files : List RenderedFile) :
    list? RenderedFile.read? (Node.array (files.map fun f => .object f.members)) = some files := by
  change (files.map fun f => Node.object f.members).mapM RenderedFile.read? = some files
  induction files with
  | nil => rfl
  | cons f files ih =>
    rw [List.map_cons, List.mapM_cons, ih, f.read?_members]
    rfl

/-- The fields are found by name, whatever stands for the start and the files. -/
theorem read?_object (runId startedAt : String) (files : Node) :
    read? (Node.object [(some "run_id", .string (some runId)),
      (some "started_at", .string (some startedAt)), (some "files", files)]) =
    (Timestamp.readLoose? startedAt).bind fun startedAt =>
      (list? RenderedFile.read? files).bind fun files => some ⟨runId, startedAt, files⟩ := rfl

/-- **A report is read back from its members.** -/
theorem read?_members (r : RenderReport) : read? (Node.object r.members) = some r := by
  rw [members, read?_object, Timestamp.readLoose?_text, list?_members]
  rfl

/-- The members are those of the text. -/
theorem readNode?_toJson (r : RenderReport) : readNode? r.toJson = some (.object r.members) := by
  rw [toJson]
  exact readNode?_compact r.ofTree?_toTree

/-- A report is read back from its text. -/
theorem ofJson?_toJson (r : RenderReport) : ofJson? r.toJson = some r := by
  rw [ofJson?, readNode?_toJson, Option.bind_eq_bind, Option.bind_some]
  exact r.read?_members

/-- **A report survives being stored.** Built for any run, any instant and any files, it has these
files in order, and it is read back from its text as it was. The text is an object with a member for
the run, one for the start and one for the files, in order. A file without an object has no such
member there, and every file is read back from its members, the missing object as missing. -/
theorem survives_text (runId : String) (startedAt : Timestamp) (files : List RenderedFile) :
    files.foldl record (new runId startedAt) = ⟨runId, startedAt, files⟩ ∧
    ofJson? (toJson (files.foldl record (new runId startedAt))) = some ⟨runId, startedAt, files⟩ ∧
    readNode? (toJson (files.foldl record (new runId startedAt))) =
      some (.object [(some "run_id", .string (some runId)),
        (some "started_at", .string (some startedAt.text)),
        (some "files", .array (files.map fun f => .object f.members))]) ∧
    ∀ f : RenderedFile, (some "object" ∈ f.members.map (·.1) ↔ f.object.isSome = true) ∧
      RenderedFile.read? (Node.object f.members) = some f ∧
      RenderedFile.ofJson? (compact f.toTree) = some f := by
  have hrecord : files.foldl record (new runId startedAt) = ⟨runId, startedAt, files⟩ :=
    foldl_record (new runId startedAt) files
  have hnode := readNode?_toJson ⟨runId, startedAt, files⟩
  rw [hrecord]
  refine ⟨rfl, ofJson?_toJson _, hnode, fun f => ?_⟩
  exact ⟨f.mem_members_object, f.read?_members, f.ofJson?_compact⟩

/-- A leap second of a year before the first. -/
def leapSecond : Timestamp := ⟨⟨⟨-44, 3, 15⟩, 23, 59, 60, 123456789⟩, by decide⟩

/-- A run that started in a leap second, with one file of the project and the largest size, and one
of an object whose name has a quote and a control character. -/
theorem survives_text_leapSecond :
    ofJson? (toJson (List.foldl record (new "run" leapSecond)
      [⟨1, .project, "index.hbs", "index.md", none, 0xffffffffffffffff, true⟩,
        ⟨2, .object, "object.hbs", "out/a.md", some "a\"\x01", 0, false⟩])) =
      some ⟨"run", leapSecond,
        [⟨1, .project, "index.hbs", "index.md", none, 0xffffffffffffffff, true⟩,
          ⟨2, .object, "object.hbs", "out/a.md", some "a\"\x01", 0, false⟩]⟩ :=
  (survives_text "run" leapSecond _).2.1

end RenderReport

end Blueprint
