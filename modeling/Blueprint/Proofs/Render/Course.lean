import Blueprint.Render.Run
import Mathlib.Data.List.Forall2

/-!
# The course of a render run

What a run does is said here without running anything: which renderings are made one after
another, each on the disk that the one before leaves, and where the first failure may come
from (`Blueprint.Render.Course`). A run takes exactly this course
(`Blueprint.Render.renderProject_course`): it comes to an end or breaks off, the report
lists every job that the project declares in the order of the declarations
(`Blueprint.Render.plan`), and the error is that of the first thing that fails.

| notion | meaning |
|---|---|
| `Rendering` | a job with the path and the content that it comes to |
| `Sequence` | things done one after another |
| `FirstFailure` | things done one after another, up to one that fails |
| `JobDone`, `JobFails` | one job |
| `FileDone`, `FileFails` | one declaration, whose jobs share one text |
| `Course` | a whole run, as its caller sees it |

A run nests one loop in another, and both are the same: jobs in a declaration, and
declarations in a project. So there is one notion of a sequence, and one lemma that a loop
over steps runs through it (`Blueprint.Render.steps_obeys`); it is used twice.
-/

namespace Blueprint

namespace Render

/-- **A job with what it comes to**: the path of the output, and its content. -/
structure Rendering where
  job : RenderJob
  output : String
  content : String

/-- The entry of a rendering in the report. -/
def Rendering.entry (options : RenderOptions) (r : Rendering) : RenderedFile :=
  r.job.entry options r.output r.content

/-! ### One thing after another -/

section Sequence

variable {α : Type} {does : α → Disk → List Rendering → Disk → Prop}
  {fails : α → Disk → List Rendering → RenderError → Disk → Prop}

/-- **Things done one after another**, each on the disk that the one before leaves. -/
inductive Sequence (does : α → Disk → List Rendering → Disk → Prop) :
    List α → Disk → List Rendering → Disk → Prop
  | nil {disk : Disk} : Sequence does [] disk [] disk
  | cons {a : α} {rest : List α} {first more : List Rendering} {disk middle last : Disk} :
      does a disk first middle → Sequence does rest middle more last →
      Sequence does (a :: rest) disk (first ++ more) last

/-- **The first failure among things done one after another**: those before it are done, it
fails on the disk that they leave, and those after it do not matter. -/
inductive FirstFailure (does : α → Disk → List Rendering → Disk → Prop)
    (fails : α → Disk → List Rendering → RenderError → Disk → Prop) :
    List α → Disk → List Rendering → RenderError → Disk → Prop
  | mk {before after : List α} {a : α} {done part : List Rendering} {error : RenderError}
      {disk middle left : Disk} :
      Sequence does before disk done middle → fails a middle part error left →
      FirstFailure does fails (before ++ a :: after) disk (done ++ part) error left

/-- A failure further on is the first one if what comes before is done. -/
theorem FirstFailure.cons {a : α} {rest : List α} {first more : List Rendering}
    {error : RenderError} {disk middle left : Disk} (ha : does a disk first middle)
    (h : FirstFailure does fails rest middle more error left) :
    FirstFailure does fails (a :: rest) disk (first ++ more) error left := by
  obtain ⟨hbefore, hfails⟩ := h
  rw [← List.append_assoc]
  exact FirstFailure.mk (Sequence.cons ha hbefore) hfails

/-- **What holds of each thing done holds of all of them together**, if it holds of nothing
and can be put together. -/
theorem Sequence.compose {R : Disk → List Rendering → Disk → Prop} (nil : ∀ disk, R disk [] disk)
    (append : ∀ {disk middle last first more}, R disk first middle → R middle more last →
      R disk (first ++ more) last)
    (each : ∀ {a disk rs last}, does a disk rs last → R disk rs last) {as : List α}
    {disk last : Disk} {rs : List Rendering} (h : Sequence does as disk rs last) :
    R disk rs last := by
  induction h with
  | nil => exact nil _
  | cons ha _ ih => exact append (each ha) ih

/-- **A step that obeys a law**: it comes to what the law says, and the law always says
something. -/
structure Obeys (options : RenderOptions) (step : Step)
    (does : Disk → List Rendering → Disk → Prop)
    (fails : Disk → List Rendering → RenderError → Disk → Prop) : Prop where
  done : ∀ {disk rs last}, does disk rs last →
    step disk = ⟨last, rs.map (Rendering.entry options), none⟩
  failed : ∀ {disk rs error left}, fails disk rs error left →
    step disk = ⟨left, rs.map (Rendering.entry options), some error⟩
  total : ∀ disk, (∃ rs last, does disk rs last) ∨ ∃ rs error left, fails disk rs error left

variable {options : RenderOptions} {f : α → Step}

/-- Steps that come after others that are done. -/
theorem steps_append_of_sequence (h : ∀ a, Obeys options (f a) (does a) (fails a)) {as : List α}
    {disk middle : Disk} {rs : List Rendering} (hs : Sequence does as disk rs middle)
    (more : List Step) :
    steps (as.map f ++ more) disk = { steps more middle with
      files := rs.map (Rendering.entry options) ++ (steps more middle).files } := by
  induction hs with
  | nil => simp
  | cons ha _ ih =>
    rw [List.map_cons, List.cons_append, steps, (h _).done ha]
    simp [Outcome.andThen, ih]

/-- **A loop over steps runs through the sequence of their laws**, up to the first
failure. -/
theorem steps_obeys (h : ∀ a, Obeys options (f a) (does a) (fails a)) (as : List α) :
    Obeys options (steps (as.map f)) (Sequence does as) (FirstFailure does fails as) where
  done hs := by
    have hsteps := steps_append_of_sequence h hs []
    simpa [steps] using hsteps
  failed hf := by
    obtain ⟨hbefore, hfails⟩ := hf
    rw [List.map_append, List.map_cons, steps_append_of_sequence h hbefore, steps,
      (h _).failed hfails]
    simp [Outcome.andThen]
  total disk := by
    -- A first step that is done hands its disk on to the rest; one that fails is the failure.
    induction as generalizing disk with
    | nil => exact .inl ⟨_, _, .nil⟩
    | cons a rest ih =>
      obtain ⟨first, middle, ha⟩ | ⟨part, error, left, ha⟩ := (h a).total disk
      · obtain ⟨more, last, hrest⟩ | ⟨more, error, left, hrest⟩ := ih middle
        · exact .inl ⟨_, _, .cons ha hrest⟩
        · exact .inr ⟨_, _, _, hrest.cons ha⟩
      · exact .inr ⟨_, _, _, .mk .nil ha⟩

end Sequence

/-! ### Jobs -/

section Jobs

variable (expand : Expansion) (options : RenderOptions)

/-- **What a job produces**: its path expands to a text that is not blank, and its template
expands as well. The output is that text without the blanks around it, as seen from the
output directory. -/
inductive Produces (job : RenderJob) : String → String → Prop
  | mk {text content : String} :
      expand options job.file.output job.context = .ok text → trim text ≠ "" →
      expand options job.template job.context = .ok content →
      Produces job (Path.join options.outputDir (trim text)) content

/-- **A job done**: what it produces is written, unless the run is a dry one. -/
inductive JobDone (job : RenderJob) : Disk → List Rendering → Disk → Prop
  | dry {disk : Disk} {output content : String} :
      Produces expand options job output content → options.dryRun = true →
      JobDone job disk [⟨job, output, content⟩] disk
  | written {disk last : Disk} {output content : String} :
      Produces expand options job output content → options.dryRun = false →
      disk.writeAtomic output content.toUTF8 = (last, none) →
      JobDone job disk [⟨job, output, content⟩] last

/-- **Why a job fails**, each reason only if those before it do not apply. Only a write that
fails may leave another disk. -/
inductive JobFails (job : RenderJob) : Disk → List Rendering → RenderError → Disk → Prop
  | path {disk : Disk} {fault : TemplateFault} :
      expand options job.file.output job.context = .error fault →
      JobFails job disk [] (.outputPath job.target fault) disk
  | blank {disk : Disk} {text : String} :
      expand options job.file.output job.context = .ok text → trim text = "" →
      JobFails job disk [] (.emptyOutputPath job.target) disk
  | template {disk : Disk} {text : String} {fault : TemplateFault} :
      expand options job.file.output job.context = .ok text → trim text ≠ "" →
      expand options job.template job.context = .error fault →
      JobFails job disk [] (.template job.target job.input fault) disk
  | write {disk left : Disk} {output content : String} {fault : DiskFault} :
      Produces expand options job output content → options.dryRun = false →
      disk.writeAtomic output content.toUTF8 = (left, some fault) →
      JobFails job disk [] (.unwritable output fault) left

variable {expand options}

theorem Produces.product_eq {job : RenderJob} {output content : String}
    (h : Produces expand options job output content) :
    job.product expand options = .ok (output, content) := by
  obtain ⟨hpath, hblank, hcontent⟩ := h
  simp only [RenderJob.product, RenderJob.outputPath, hpath, if_neg hblank, hcontent]
  rfl

/-- **A job obeys its law.** -/
theorem run_obeys (job : RenderJob) : Obeys options (job.run expand options)
    (JobDone expand options job) (JobFails expand options job) where
  done h := by
    cases h with
    | dry hp hdry => simp [RenderJob.run, hp.product_eq, RenderJob.write, hdry, Rendering.entry]
    | written hp hdry hw =>
      simp only [RenderJob.run, hp.product_eq, RenderJob.write, hdry, Bool.false_eq_true, if_false,
        hw]
      rfl
  failed h := by
    cases h with
    | path hpath =>
      simp [RenderJob.run, RenderJob.product, RenderJob.outputPath, hpath, bind, Except.bind, fail]
    | blank hpath hblank =>
      simp [RenderJob.run, RenderJob.product, RenderJob.outputPath, hpath, hblank, bind,
        Except.bind, fail]
    | template hpath hblank hcontent =>
      simp [RenderJob.run, RenderJob.product, RenderJob.outputPath, hpath, hblank, hcontent, bind,
        Except.bind, fail]
    | write hp hdry hw =>
      simp only [RenderJob.run, hp.product_eq, RenderJob.write, hdry, Bool.false_eq_true, if_false,
        hw]
      rfl
  total disk := by
    -- The cases are those in which a job meets its reasons to fail, in that order.
    cases hpath : expand options job.file.output job.context with
    | error fault => exact .inr ⟨_, _, _, .path hpath⟩
    | ok text =>
      by_cases hblank : trim text = ""
      · exact .inr ⟨_, _, _, .blank hpath hblank⟩
      cases hcontent : expand options job.template job.context with
      | error fault => exact .inr ⟨_, _, _, .template hpath hblank hcontent⟩
      | ok content =>
        have hp : Produces expand options job _ content := .mk hpath hblank hcontent
        cases hdry : options.dryRun with
        | true => exact .inl ⟨_, _, .dry hp hdry⟩
        | false =>
          cases hw : disk.writeAtomic (Path.join options.outputDir (trim text)) content.toUTF8 with
          | mk last fault? =>
            cases fault? with
            | none => exact .inl ⟨_, _, .written hp hdry hw⟩
            | some fault => exact .inr ⟨_, _, _, .write hp hdry hw⟩

/-- A job done makes one rendering, its own. -/
theorem JobDone.jobs_eq {job : RenderJob} {disk last : Disk} {rs : List Rendering}
    (h : JobDone expand options job disk rs last) : rs.map (·.job) = [job] := by
  cases h <;> rfl

/-- Jobs done one after another make one rendering each. -/
theorem jobs_eq_of_sequence {js : List RenderJob} {disk last : Disk} {rs : List Rendering}
    (h : Sequence (JobDone expand options) js disk rs last) : rs.map (·.job) = js := by
  induction h with
  | nil => rfl
  | cons hjob _ ih => rw [List.map_append, hjob.jobs_eq, ih, List.singleton_append]

end Jobs

/-! ### Declarations -/

section Declarations

variable (expand : Expansion) (options : RenderOptions) (view : ProjectView)

/-- **A declaration done**: its template is read once, and its jobs are done with this one
text, one after another. -/
inductive FileDone (declared : Nat × OutputFile) : Disk → List Rendering → Disk → Prop
  | mk {disk last : Disk} {template : String} {rs : List Rendering} :
      disk.readText (Path.join options.templateDir declared.2.input) = .ok template →
      Sequence (JobDone expand options) (jobs options view declared.1 declared.2 template)
        disk rs last →
      FileDone declared disk rs last

/-- **Why a declaration fails**: its template cannot be read, or one of its jobs fails after
those before it. -/
inductive FileFails (declared : Nat × OutputFile) :
    Disk → List Rendering → RenderError → Disk → Prop
  | unread {disk : Disk} {fault : DiskFault} :
      disk.readText (Path.join options.templateDir declared.2.input) = .error fault →
      FileFails declared disk []
        (.unreadable ⟨declared.1, none⟩ (Path.join options.templateDir declared.2.input) fault) disk
  | job {disk left : Disk} {template : String} {rs : List Rendering} {error : RenderError} :
      disk.readText (Path.join options.templateDir declared.2.input) = .ok template →
      FirstFailure (JobDone expand options) (JobFails expand options)
        (jobs options view declared.1 declared.2 template) disk rs error left →
      FileFails declared disk rs error left

variable {expand options view}

/-- A declaration, as what its template leads to. -/
theorem renderFile_eq (position : Nat) (file : OutputFile) (disk : Disk) :
    renderFile expand options view position file disk =
      match disk.readText (Path.join options.templateDir file.input) with
      | .error fault =>
        fail (.unreadable ⟨position, none⟩ (Path.join options.templateDir file.input) fault) disk
      | .ok template =>
        steps ((jobs options view position file template).map fun job => job.run expand options)
          disk := by
  rfl

/-- **A declaration obeys its law.** -/
theorem renderFile_obeys (declared : Nat × OutputFile) :
    Obeys options (renderFile expand options view declared.1 declared.2)
      (FileDone expand options view declared) (FileFails expand options view declared) where
  done h := by
    obtain ⟨hread, hjobs⟩ := h
    rw [renderFile_eq, hread]
    exact (steps_obeys run_obeys _).done hjobs
  failed h := by
    cases h with
    | unread hread =>
      rw [renderFile_eq, hread]
      rfl
    | job hread hjobs =>
      rw [renderFile_eq, hread]
      exact (steps_obeys run_obeys _).failed hjobs
  total disk := by
    cases hread : disk.readText (Path.join options.templateDir declared.2.input) with
    | error fault => exact .inr ⟨_, _, _, .unread hread⟩
    | ok template =>
      obtain ⟨rs, last, hjobs⟩ | ⟨rs, error, left, hjobs⟩ :=
        (steps_obeys run_obeys (jobs options view declared.1 declared.2 template)).total disk
      · exact .inl ⟨_, _, .mk hread hjobs⟩
      · exact .inr ⟨_, _, _, .job hread hjobs⟩

end Declarations

/-! ### Runs -/

section Runs

variable (expand : Expansion) (options : RenderOptions) (project : Project)

/-- The declarations of a project, each with its position, counted from one. -/
def declarations (project : Project) : List (Nat × OutputFile) :=
  project.files.mapIdx fun i file => (i + 1, file)

/-- **The course of a run**, as its caller sees it: the report or the error, and the disk
that is left. -/
inductive Course (runId : String) (startedAt : Timestamp) (disk : Disk) :
    Except RenderError RenderReport → Disk → Prop
  | complete {rs : List Rendering} {last : Disk} :
      Sequence (FileDone expand options (.ofProject project)) (declarations project) disk rs last →
      Course runId startedAt disk
        (.ok ⟨runId, startedAt, rs.map (Rendering.entry options)⟩) last
  | brokenOff {rs : List Rendering} {error : RenderError} {left : Disk} :
      FirstFailure (FileDone expand options (.ofProject project))
        (FileFails expand options (.ofProject project)) (declarations project) disk rs error left →
      Course runId startedAt disk (.error error) left

variable {expand options project}

/-- The report of a run that did not fail has its files. -/
theorem report_of_success {o : Outcome} (h : o.failure = none) (runId : String)
    (startedAt : Timestamp) : o.report runId startedAt = .ok ⟨runId, startedAt, o.files⟩ := by
  rw [Outcome.report, h]
  exact congrArg Except.ok (RenderReport.foldl_record (.new runId startedAt) o.files)

/-- A run, as steps through its declarations. -/
theorem renderProject_eq_steps : renderProject expand options project =
    steps ((declarations project).map fun declared =>
      renderFile expand options (.ofProject project) declared.1 declared.2) := by
  simp only [renderProject, declarations, List.mapIdx_eq_zipIdx_map, List.map_map]
  rfl

/-- A run obeys the law of its declarations, one after another. -/
theorem renderProject_obeys : Obeys options (renderProject expand options project)
    (Sequence (FileDone expand options (.ofProject project)) (declarations project))
    (FirstFailure (FileDone expand options (.ofProject project))
      (FileFails expand options (.ofProject project)) (declarations project)) := by
  rw [renderProject_eq_steps]
  exact steps_obeys renderFile_obeys _

/-- What the caller of a run sees is the course of the run, and nothing else is. -/
theorem course_iff {runId : String} {startedAt : Timestamp} {disk left : Disk}
    {result : Except RenderError RenderReport} :
    Course expand options project runId startedAt disk result left ↔
      (renderProject expand options project disk).report runId startedAt = result ∧
        (renderProject expand options project disk).disk = left := by
  constructor
  · rintro (hs | hf)
    · rw [renderProject_obeys.done hs]
      exact ⟨report_of_success rfl _ _, rfl⟩
    · rw [renderProject_obeys.failed hf]
      exact ⟨rfl, rfl⟩
  · rintro ⟨rfl, rfl⟩
    obtain ⟨rs, last, hs⟩ | ⟨rs, error, left, hf⟩ := renderProject_obeys.total disk
    · rw [renderProject_obeys.done hs, report_of_success rfl]
      exact .complete hs
    · rw [renderProject_obeys.failed hf]
      exact .brokenOff hf

end Runs

/-! ### What the report lists -/

/-- **What an entry of the report says of its job**: the declaration that it comes from, the
template, and the object. -/
structure Heading where
  position : UInt64
  scope : FileScope
  input : String
  object : Option String
deriving DecidableEq

end Render

/-- The heading of a file in the report. -/
def RenderedFile.heading (f : RenderedFile) : Render.Heading :=
  ⟨f.position, f.scope, f.input, f.object⟩

namespace Render

section Plan

variable (options : RenderOptions) (project : Project)

/-- The objects that a declaration is rendered for: none, once, or each one. -/
def renderedFor : FileScope → List (Option String)
  | .project => [none]
  | .object => project.objects.map fun object => some object.name

/-- The headings that a declaration asks for, object by object. -/
def askedFor (declared : Nat × OutputFile) : List Heading :=
  (renderedFor project declared.2.scope).map fun object =>
    ⟨UInt64.ofNat declared.1, declared.2.scope,
      Path.join options.templateDir declared.2.input, object⟩

/-- **The headings that a project asks for**, declaration by declaration. -/
def plan : List Heading := (declarations project).flatMap (askedFor options project)

variable {options project}

/-- Names read off the elements of a list survive a reading of the list. -/
theorem map_eq_map_of_mapM {α β γ : Type} {f : α → Option β} {name : α → γ} {shown : β → γ}
    (h : ∀ {a b}, f a = some b → shown b = name a) {as : List α} {bs : List β}
    (hm : as.mapM f = some bs) : bs.map shown = as.map name := by
  induction as generalizing bs with
  | nil =>
    obtain rfl : [] = bs := by simpa using hm
    rfl
  | cons a as ih =>
    rw [List.mapM_cons] at hm
    obtain ⟨b, hb, hm⟩ := Option.bind_eq_some_iff.mp hm
    obtain ⟨bs', hbs, hm⟩ := Option.bind_eq_some_iff.mp hm
    obtain rfl : b :: bs' = bs := Option.some.inj hm
    rw [List.map_cons, List.map_cons, h hb, ih hbs]

/-- The view of an object bears its name. -/
theorem name_of_objectView {object : Object} {v : ObjectView}
    (h : ObjectView.ofObject? project object = some v) : v.name = object.name := by
  simp only [ObjectView.ofObject?, Option.bind_eq_bind, Option.bind_eq_some_iff] at h
  obtain ⟨_, _, _, _, _, _, _, _, h⟩ := h
  exact congrArg ObjectView.name (Option.some.inj h).symm

/-- The view of a project shows its objects, in their order. -/
theorem names_of_view (h : (ProjectView.ofProject? project).isSome = true) :
    (ProjectView.ofProject project).objects.map (·.name) = project.objects.map (·.name) := by
  obtain ⟨view, hview⟩ := Option.isSome_iff_exists.mp h
  rw [ProjectView.ofProject, hview, Option.getD_some]
  obtain ⟨objects, hobjects, hview⟩ := Option.bind_eq_some_iff.mp hview
  rw [← Option.some.inj hview]
  exact map_eq_map_of_mapM name_of_objectView hobjects

/-- What a declaration is rendered with names the objects that it is rendered for. -/
theorem map_fst_contexts (h : (ProjectView.ofProject? project).isSome = true) (scope : FileScope) :
    (contexts (.ofProject project) scope).map (·.1) = renderedFor project scope := by
  cases scope with
  | project => rfl
  | object =>
    have hnames := congrArg (List.map some) (names_of_view h)
    rw [List.map_map, List.map_map] at hnames
    rw [contexts, List.map_map]
    exact hnames

/-- The heading of a rendering is that of its job. -/
def RenderJob.heading (job : RenderJob) : Heading :=
  ⟨UInt64.ofNat job.position, job.file.scope, job.input, job.object⟩

/-- **A declaration done makes the renderings that it asks for.** -/
theorem headings_of_fileDone {expand : Expansion}
    (h : (ProjectView.ofProject? project).isSome = true) {declared : Nat × OutputFile}
    {disk last : Disk} {rs : List Rendering}
    (hd : FileDone expand options (.ofProject project) declared disk rs last) :
    rs.map (·.job.heading) = askedFor options project declared := by
  obtain ⟨-, hjobs⟩ := hd
  -- The text of the template is in the jobs, and not in their headings.
  have hheadings := congrArg (List.map RenderJob.heading) (jobs_eq_of_sequence hjobs)
  rw [List.map_map] at hheadings
  rw [askedFor, ← map_fst_contexts h, List.map_map]
  refine hheadings.trans ?_
  rw [jobs, List.map_map]
  rfl

/-- **A run that comes to its end makes the renderings of the plan.** -/
theorem headings_of_sequence {expand : Expansion}
    (h : (ProjectView.ofProject? project).isSome = true) {ds : List (Nat × OutputFile)}
    {disk last : Disk} {rs : List Rendering}
    (hs : Sequence (FileDone expand options (.ofProject project)) ds disk rs last) :
    rs.map (·.job.heading) = ds.flatMap (askedFor options project) := by
  induction hs with
  | nil => rfl
  | cons hd _ ih => rw [List.map_append, headings_of_fileDone h hd, ih, List.flatMap_cons]

/-! ### How many files there are -/

theorem files_of_declarations : (declarations project).map (·.2) = project.files := by
  simp [declarations, List.mapIdx_eq_zipIdx_map, Function.comp_def]

/-- The file of a declaration is one of the project. -/
theorem mem_files_of_mem_declarations {declared : Nat × OutputFile}
    (h : declared ∈ declarations project) : declared.2 ∈ project.files := by
  rw [← files_of_declarations]
  exact List.mem_map_of_mem h

/-- A declaration asks for files of its own scope only. -/
theorem filter_askedFor (declared : Nat × OutputFile) (scope : FileScope) :
    (askedFor options project declared).filter (fun heading => heading.scope = scope) =
      if declared.2.scope = scope then askedFor options project declared else [] := by
  split
  next hscope => exact List.filter_eq_self.mpr (by simp [askedFor, hscope])
  next hscope => exact List.filter_eq_nil_iff.mpr (by simp [askedFor, hscope])

/-- **A plan has as many files of a scope for each declaration of it.** -/
theorem count_plan (scope : FileScope) :
    ((plan options project).filter fun heading => heading.scope = scope).length =
      (project.files.filter fun file => file.scope = scope).length *
        (renderedFor project scope).length := by
  rw [plan, ← files_of_declarations]
  induction declarations project with
  | nil => simp
  | cons declared rest ih =>
    rw [List.flatMap_cons, List.filter_append, List.length_append, ih, filter_askedFor,
      List.map_cons, List.filter_cons]
    -- A declaration of the scope adds its files, and any other adds none that counts.
    by_cases hscope : declared.2.scope = scope
    · rw [if_pos hscope, if_pos (decide_eq_true hscope), List.length_cons, Nat.add_one_mul,
        Nat.add_comm, askedFor, List.length_map, hscope]
    · rw [if_neg hscope, if_neg (by simpa using hscope), List.length_nil, Nat.zero_add]

/-- The entries of renderings count as their headings do. -/
theorem count_eq (runId : String) (startedAt : Timestamp) (rs : List Rendering)
    (scope : FileScope) :
    (RenderReport.mk runId startedAt (rs.map (Rendering.entry options))).count scope =
      ((rs.map (·.job.heading)).filter fun heading => heading.scope = scope).length := by
  simp only [RenderReport.count, List.filter_map, List.length_map]
  rfl

/-- **A run takes its course.** What its caller sees, the report or the error and the disk
that is left, is what the course allows, and nothing else. When it comes to its end, the
report lists the files that the project asks for, each in its place: one for a declaration
of project scope, and one for each object for a declaration of object scope. Only a project
whose references all resolve, as those of a loaded one do, shows its objects to templates.

The first part is said of the run with `ProjectView.ofProject`. For a project with a reference
that leads nowhere this is a run with the empty view, where the program has no view and stops, so
of such a project nothing is said about the program. -/
theorem renderProject_course (expand : Expansion) (options : RenderOptions) (project : Project)
    (disk : Disk) (runId : String) (startedAt : Timestamp) :
    (∀ result left, Course expand options project runId startedAt disk result left ↔
      (renderProject expand options project disk).report runId startedAt = result ∧
        (renderProject expand options project disk).disk = left) ∧
    ∀ report, (renderProject expand options project disk).report runId startedAt = .ok report →
      (ProjectView.ofProject? project).isSome = true →
      report.files.map RenderedFile.heading = plan options project ∧
      report.count .project = (project.files.filter fun file => file.scope = .project).length ∧
      report.count .object =
        (project.files.filter fun file => file.scope = .object).length *
          project.objects.length := by
  refine ⟨fun result left => course_iff, fun report hreport hview => ?_⟩
  obtain hs | hf := course_iff.mpr ⟨hreport, rfl⟩
  have hheadings := headings_of_sequence hview hs
  refine ⟨?_, ?_, ?_⟩
  · rw [← plan] at hheadings
    rw [← hheadings, List.map_map]
    rfl
  · rw [count_eq, hheadings, ← plan, count_plan, renderedFor, List.length_singleton, Nat.mul_one]
  · rw [count_eq, hheadings, ← plan, count_plan, renderedFor, List.length_map]

end Plan

/-- Templates that expand to themselves. -/
def echo : Expansion := fun _ text _ => .ok text

/-- A project of two objects, with a file of its own and one for each of them. -/
def gallery : Project where
  name := "Gallery"
  attributes := .empty
  dataTypes := builtinDataTypes
  objects := [⟨"Artist", [], [], [], [], .empty⟩, ⟨"Work", [], [], [], [], .empty⟩]
  files := [⟨.project, "index.hbs", "index.md"⟩, ⟨.object, "card.hbs", "card.md"⟩]

/-- A disk with the templates of the gallery. -/
def galleryDisk : Disk :=
  (Disk.blank.install "index.hbs" (.file "all".toUTF8)).install "card.hbs" (.file "one".toUTF8)

/-- The gallery rendered: its own file once, and the other one for each object. -/
theorem renderProject_course_gallery : ∃ report,
    (renderProject echo .default gallery galleryDisk).report "first" .epoch = .ok report ∧
    report.count .project = 1 ∧ report.count .object = 2 := by
  have hreport := report_of_success (o := renderProject echo .default gallery galleryDisk)
    (by decide +kernel) "first" .epoch
  obtain ⟨-, hproject, hobject⟩ := (renderProject_course _ _ _ _ _ _).2 _ hreport rfl
  exact ⟨_, hreport, hproject, hobject⟩

end Render

end Blueprint
