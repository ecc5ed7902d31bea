import Blueprint.Proofs.Render.Templates
import Blueprint.Template.Expand

/-!
# What a dry run says of the run that writes

A dry run is a rehearsal: it does everything but write, and it leaves the disk as it is
(`Blueprint.Render.renderProject_dry`). Its report is worth something only if the run that writes
comes to the same files, and this is not obvious, since that run reads its later templates
from a disk that it has changed by then. As long as its outputs keep clear of its templates
(`Blueprint.Render.Separate`), though, the two differ in the following only.

| the run that writes | the dry run |
|---|---|
| comes to its end | comes to its end, with the same files |
| cannot write a file | goes on, and that file is on its list |
| fails at another step | fails at the same step |

This is a relation of two outcomes (`Blueprint.Render.Foretells`). Both runs nest a loop in another,
and the relation passes from what is done in a loop to the loop
(`Blueprint.Render.rehearses_steps`).
-/

namespace Blueprint

/-- Options with another word on whether files are written. -/
def RenderOptions.withDryRun (dryRun : Bool) (o : RenderOptions) : RenderOptions :=
  { o with dryRun }

/-- A file as it is reported by a run that writes, or by one that does not. -/
def RenderedFile.withWritten (written : Bool) (f : RenderedFile) : RenderedFile :=
  { f with written }

/-- A report of files that are all written, or all not. -/
def RenderReport.withWritten (written : Bool) (r : RenderReport) : RenderReport :=
  { r with files := r.files.map (RenderedFile.withWritten written) }

namespace Render

open Disk

/-! ### What a run keeps -/

section Keeping

variable {expand : Expansion} {options : RenderOptions} {view : ProjectView} {project : Project}
  {motive : Disk → Prop} {disk : Disk}

/-- What every step keeps is kept by steps one after another, wherever they end. -/
theorem steps_keeps {ss : List Step} (hsteps : ∀ step ∈ ss, ∀ d, motive d → motive (step d).disk)
    (start : motive disk) : motive (steps ss disk).disk := by
  induction ss generalizing disk with
  | nil => exact start
  | cons step rest ih =>
    have hfirst := hsteps step List.mem_cons_self disk start
    rw [steps, Outcome.andThen]
    split
    · exact hfirst
    · exact ih (fun step hstep => hsteps step (List.mem_cons_of_mem _ hstep)) hfirst

variable (write : options.dryRun = false → ∀ d path content, motive d →
  motive (d.writeAtomic path content).1)
include write

theorem run_keeps (job : RenderJob) (start : motive disk) :
    motive (job.run expand options disk).disk := by
  rw [RenderJob.run]
  split
  · exact start
  next output content hproduct =>
    have hwrite : motive (RenderJob.write options disk output content).1 := by
      rw [RenderJob.write]
      split
      · exact start
      next hdry => exact write (Bool.eq_false_iff.mpr hdry) _ _ _ start
    split
    next hwritten => rwa [hwritten] at hwrite
    next hwritten => rwa [hwritten] at hwrite

theorem renderFile_keeps (position : Nat) (file : OutputFile) (start : motive disk) :
    motive (renderFile expand options view position file disk).disk := by
  rw [renderFile_eq]
  split
  · exact start
  · refine steps_keeps ?_ start
    rintro _ hstep d hd
    obtain ⟨job, -, rfl⟩ := List.mem_map.mp hstep
    exact run_keeps write job hd

/-- **What writing a file keeps is kept by a run**, whether it comes to its end or not. -/
theorem renderProject_keeps (start : motive disk) :
    motive (renderProject expand options project disk).disk := by
  rw [renderProject_eq_steps]
  refine steps_keeps ?_ start
  rintro _ hstep d hd
  obtain ⟨declared, -, rfl⟩ := List.mem_map.mp hstep
  exact renderFile_keeps write _ _ hd

end Keeping

/-- **A run leaves a tree of a tree.** -/
theorem isTree_renderProject {expand : Expansion} {options : RenderOptions} {project : Project}
    {disk : Disk} (h : disk.IsTree) : (renderProject expand options project disk).disk.IsTree :=
  renderProject_keeps (fun _ _ path content hd => hd.writeAtomic path content) h

section Dry

variable {expand : Expansion} {options : RenderOptions} (hdry : options.dryRun = true)
include hdry

/-- A dry job leaves the disk as it is. -/
theorem run_dry (job : RenderJob) (disk : Disk) : (job.run expand options disk).disk = disk :=
  run_keeps (motive := (· = disk)) (fun h => absurd (hdry.symm.trans h) (by decide)) job rfl

theorem renderFile_dry (view : ProjectView) (position : Nat) (file : OutputFile) (disk : Disk) :
    (renderFile expand options view position file disk).disk = disk :=
  renderFile_keeps (motive := (· = disk)) (fun h => absurd (hdry.symm.trans h) (by decide)) _ _ rfl

/-- **A dry run leaves the disk as it is**, whether it comes to its end or not. -/
theorem renderProject_dry (project : Project) (disk : Disk) :
    (renderProject expand options project disk).disk = disk :=
  renderProject_keeps (motive := (· = disk)) (fun h => absurd (hdry.symm.trans h) (by decide)) rfl

end Dry

/-! ### Two outcomes -/

/-- Two runs end in the same way: with no failure, with the same one, or with a template that
neither of them can read, be it for different reasons. -/
inductive SameFailure : Option RenderError → Option RenderError → Prop
  | refl (failure : Option RenderError) : SameFailure failure failure
  | unreadable (target : RenderTarget) (path : String) (fault fault' : DiskFault) :
      SameFailure (some (.unreadable target path fault)) (some (.unreadable target path fault'))

/-- **Two runs end at the same step**: one has written the files that the other lists, and they
end in the same way. -/
structure EndsAlike (dry real : Outcome) : Prop where
  files : real.files = dry.files.map (RenderedFile.withWritten true)
  failure : SameFailure dry.failure real.failure

/-- **A run breaks off at a write**: it cannot write a file that a dry run lists, and has
written those before it. -/
def BreaksOff (dry real : Outcome) : Prop :=
  ∃ before f after fault, dry.files = before ++ f :: after ∧
    real.files = before.map (RenderedFile.withWritten true) ∧
    real.failure = some (.unwritable f.output fault)

/-- **What a dry run says of the run that writes.** -/
def Foretells (dry real : Outcome) : Prop := EndsAlike dry real ∨ BreaksOff dry real

/-- An outcome without a failure, and what a step adds to it. -/
theorem andThen_of_none {o : Outcome} (h : o.failure = none) (step : Step) :
    o.andThen step = { step o.disk with files := o.files ++ (step o.disk).files } := by
  rw [Outcome.andThen, h]

/-- Nothing comes after a failure. -/
theorem andThen_of_some {o : Outcome} {error : RenderError} (h : o.failure = some error)
    (step : Step) : o.andThen step = o := by
  rw [Outcome.andThen, h]

variable {dry real : Outcome}

/-- A run that breaks off does so whatever comes after. -/
theorem BreaksOff.andThen {f g : Step} (h : BreaksOff dry real) :
    BreaksOff (dry.andThen f) (real.andThen g) := by
  obtain ⟨before, f', after, fault, hdry, hreal, hfailure⟩ := h
  rw [andThen_of_some hfailure]
  cases hend : dry.failure with
  | some error =>
    rw [andThen_of_some hend]
    exact ⟨before, f', after, fault, hdry, hreal, hfailure⟩
  | none =>
    rw [andThen_of_none hend]
    refine ⟨before, f', after ++ (f dry.disk).files, fault, ?_, hreal, hfailure⟩
    rw [hdry, List.append_assoc, List.cons_append]

/-- **What is foretold of a beginning is foretold of the whole**, if it is of the rest. -/
theorem Foretells.andThen {f g : Step} (h : Foretells dry real)
    (hrest : real.failure = none → Foretells (f dry.disk) (g real.disk)) :
    Foretells (dry.andThen f) (real.andThen g) := by
  obtain ⟨hfiles, hfailure⟩ | h := h
  · obtain ⟨disk, files, failure⟩ := dry
    obtain ⟨disk', files', failure'⟩ := real
    obtain rfl : files' = files.map (RenderedFile.withWritten true) := hfiles
    cases hfailure with
    | unreadable => exact .inl ⟨rfl, .unreadable _ _ _ _⟩
    | refl failure =>
      cases failure with
      | some error => exact .inl ⟨rfl, .refl _⟩
      | none =>
        -- Both have come through the beginning, and the rest decides.
        obtain hmore | ⟨before, f', after, fault, hmore, hmore', hfault⟩ := hrest rfl
        · refine .inl ⟨?_, hmore.failure⟩
          exact (congrArg _ hmore.files).trans List.map_append.symm
        · refine .inr ⟨files ++ before, f', after, fault, ?_, ?_, hfault⟩
          · exact (congrArg _ hmore).trans (List.append_assoc _ _ _).symm
          · exact (congrArg _ hmore').trans List.map_append.symm
  · exact .inr h.andThen

/-! ### Rehearsals -/

/-- **A step rehearses another one**: on a disk it foretells what the other one comes to on any
disk that goes with it, and when the other one is done the disk still does. -/
structure Rehearses (Sync : Disk → Prop) (disk : Disk) (dry real : Step) : Prop where
  foretells : ∀ e, Sync e → Foretells (dry disk) (real e)
  sync : ∀ e, Sync e → (real e).failure = none → Sync (real e).disk

/-- **A loop rehearses a loop** if the steps of one rehearse those of the other and leave the
disk as it is. -/
theorem rehearses_steps {α : Type} {Sync : Disk → Prop} {disk : Disk} {f g : α → Step}
    {as : List α} (hdry : ∀ a, (f a disk).disk = disk)
    (h : ∀ a ∈ as, Rehearses Sync disk (f a) (g a)) :
    Rehearses Sync disk (steps (as.map f)) (steps (as.map g)) := by
  induction as with
  | nil => exact ⟨fun _ _ => .inl ⟨rfl, .refl _⟩, fun _ he _ => he⟩
  | cons a as ih =>
    have ha := h a List.mem_cons_self
    have hrest := ih fun a ha => h a (List.mem_cons_of_mem _ ha)
    refine ⟨fun e he => ?_, fun e he hdone => ?_⟩
    · refine (ha.foretells e he).andThen fun hdone => ?_
      rw [hdry a]
      exact hrest.foretells _ (ha.sync e he hdone)
    · rw [List.map_cons, steps] at hdone ⊢
      cases hend : (g a e).failure with
      | some error =>
        rw [andThen_of_some hend, hend] at hdone
        cases hdone
      | none =>
        rw [andThen_of_none hend] at hdone ⊢
        exact hrest.sync _ (ha.sync e he hend) hdone

/-! ### A run and its rehearsal -/

/-- **Expansion by an engine** that is told how strict to be and what the helpers are called, and
nothing else of the options of a run. -/
def byMode (engine : Template.Mode → String → Tree → Except TemplateFault String) : Expansion :=
  fun options => engine (.ofOptions options)

/-- Templates are expanded by such an engine. -/
example : byMode Template.expand = Template.expandWith := rfl

section Outputs

variable (expand : Expansion) (options : RenderOptions) (project : Project)

/-- **The output paths of a project**, as far as they have an expansion. They do not depend on
the text of any template. -/
def outputs : List String :=
  (declarations project).flatMap fun declared =>
    (jobs options (.ofProject project) declared.1 declared.2 "").filterMap fun job =>
      (job.outputPath expand options).toOption

/-- **The outputs of a project keep clear of its templates**, and the paths of those only lead
down. -/
structure Separate (disk : Disk) : Prop where
  dots : ∀ file ∈ project.files, ".." ∉ Path.segments (Path.join options.templateDir file.input)
  clear : ∀ file ∈ project.files, ∀ path ∈ outputs expand options project,
    disk.KeepsClear path (disk.place (Path.join options.templateDir file.input))

variable {expand options project}

/-- The output path of a job is one of the project. -/
theorem mem_outputs {declared : Nat × OutputFile} (hdeclared : declared ∈ declarations project)
    {template path : String} {job : RenderJob}
    (hjob : job ∈ jobs options (.ofProject project) declared.1 declared.2 template)
    (hpath : job.outputPath expand options = .ok path) :
    path ∈ outputs expand options project := by
  refine List.mem_flatMap.mpr ⟨declared, hdeclared, List.mem_filterMap.mpr ?_⟩
  obtain ⟨c, hc, rfl⟩ := List.mem_map.mp hjob
  refine ⟨_, List.mem_map_of_mem hc, ?_⟩
  exact congrArg Except.toOption hpath

end Outputs

section Rehearsal

variable {engine : Template.Mode → String → Tree → Except TemplateFault String}
  {options : RenderOptions} {project : Project} {disk : Disk}

/-- What a job writes goes to its output path. -/
theorem outputPath_of_product {expand : Expansion} {job : RenderJob} {output content : String}
    (h : job.product expand options = .ok (output, content)) :
    job.outputPath expand options = .ok output := by
  obtain ⟨path, hpath, h⟩ := bind_eq_ok_iff.mp h
  split at h
  · exact nomatch h
  · rw [hpath, (Prod.mk.inj (Except.ok.inj h)).1]

section Run

variable {expand : Expansion} {job : RenderJob} {output content : String} {written : Disk}

theorem run_of_error {error : RenderError} (h : job.product expand options = .error error) :
    job.run expand options disk = fail error disk := by
  simp only [RenderJob.run, h]

theorem run_of_fault {fault : DiskFault} (h : job.product expand options = .ok (output, content))
    (hw : RenderJob.write options disk output content = (written, some fault)) :
    job.run expand options disk = ⟨written, [], some (.unwritable output fault)⟩ := by
  simp only [RenderJob.run, h, hw]

theorem run_of_write (h : job.product expand options = .ok (output, content))
    (hw : RenderJob.write options disk output content = (written, none)) :
    job.run expand options disk = ⟨written, [job.entry options output content], none⟩ := by
  simp only [RenderJob.run, h, hw]

end Run

/-- **A job is rehearsed** by the dry one: it may fail only where that one would write. -/
theorem rehearses_run {job : RenderJob} (houtput : ∀ path,
      job.outputPath (byMode engine) options = .ok path →
        path ∈ outputs (byMode engine) options project) :
    Rehearses (Reached (outputs (byMode engine) options project) disk) disk
      (job.run (byMode engine) (options.withDryRun true))
      (job.run (byMode engine) (options.withDryRun false)) := by
  -- Whether files are written does not matter to what would be written.
  have hsame : ∀ dry, job.product (byMode engine) (options.withDryRun dry) =
      job.product (byMode engine) options := fun _ => rfl
  cases hproduct : job.product (byMode engine) options with
  | error error =>
    refine ⟨fun e _ => ?_, fun e _ hdone => ?_⟩
    · rw [run_of_error ((hsame true).trans hproduct), run_of_error ((hsame false).trans hproduct)]
      exact .inl ⟨rfl, .refl _⟩
    · rw [run_of_error ((hsame false).trans hproduct)] at hdone
      exact nomatch hdone
  | ok product =>
    obtain ⟨output, content⟩ := product
    have hmem := houtput output (outputPath_of_product hproduct)
    refine ⟨fun e he => ?_, fun e he hdone => ?_⟩
    · rw [run_of_write ((hsame true).trans hproduct) rfl]
      rcases hw : RenderJob.write (options.withDryRun false) e output content with ⟨written, _ | fault⟩
      · rw [run_of_write ((hsame false).trans hproduct) hw]
        exact .inl ⟨rfl, .refl _⟩
      · rw [run_of_fault ((hsame false).trans hproduct) hw]
        exact .inr ⟨[], _, [], fault, rfl, rfl, rfl⟩
    · rcases hw : RenderJob.write (options.withDryRun false) e output content with ⟨written, _ | fault⟩
      · rw [run_of_write ((hsame false).trans hproduct) hw]
        exact he.trans (.of_write (r := ⟨job, output, content⟩) hmem hw)
      · rw [run_of_fault ((hsame false).trans hproduct) hw] at hdone
        exact nomatch hdone

theorem renderFile_of_unread {expand : Expansion} {view : ProjectView} {position : Nat}
    {file : OutputFile} {fault : DiskFault}
    (h : disk.readText (Path.join options.templateDir file.input) = .error fault) :
    renderFile expand options view position file disk =
      fail (.unreadable ⟨position, none⟩ (Path.join options.templateDir file.input) fault) disk := by
  rw [renderFile_eq, h]

theorem renderFile_of_read {expand : Expansion} {view : ProjectView} {position : Nat}
    {file : OutputFile} {template : String}
    (h : disk.readText (Path.join options.templateDir file.input) = .ok template) :
    renderFile expand options view position file disk =
      steps ((jobs options view position file template).map fun job => job.run expand options)
        disk := by
  rw [renderFile_eq, h]

/-- **A declaration is rehearsed** by the dry one, which reads the same template. -/
theorem rehearses_renderFile (htree : disk.IsTree)
    (hseparate : Separate (byMode engine) options project disk) {declared : Nat × OutputFile}
    (hdeclared : declared ∈ declarations project) :
    Rehearses (Reached (outputs (byMode engine) options project) disk) disk
      (renderFile (byMode engine) (options.withDryRun true) (.ofProject project) declared.1 declared.2)
      (renderFile (byMode engine) (options.withDryRun false) (.ofProject project) declared.1
        declared.2) := by
  have hfile := mem_files_of_mem_declarations hdeclared
  have hread : ∀ e, Reached (outputs (byMode engine) options project) disk e → ∀ text,
      e.readText (Path.join options.templateDir declared.2.input) = .ok text ↔
        disk.readText (Path.join options.templateDir declared.2.input) = .ok text := by
    intro e he text
    exact he.readText_iff htree (hseparate.dots _ hfile) (hseparate.clear _ hfile)
  cases htext : disk.readText (Path.join options.templateDir declared.2.input) with
  | error fault =>
    -- What the dry run cannot read cannot be read later on either.
    have hfail : ∀ e, Reached (outputs (byMode engine) options project) disk e → ∀ dry, ∃ fault',
        renderFile (byMode engine) (options.withDryRun dry) (.ofProject project) declared.1
          declared.2 e = fail (.unreadable ⟨declared.1, none⟩
            (Path.join options.templateDir declared.2.input) fault') e := by
      intro e he dry
      cases htext' : e.readText (Path.join options.templateDir declared.2.input) with
      | error fault' => exact ⟨fault', renderFile_of_unread htext'⟩
      | ok text => exact nomatch htext.symm.trans ((hread e he text).mp htext')
    refine ⟨fun e he => ?_, fun e he hdone => ?_⟩
    · obtain ⟨fault', hreal⟩ := hfail e he false
      obtain ⟨fault, hdry⟩ := hfail disk (.refl _ _) true
      rw [hdry, hreal]
      exact .inl ⟨rfl, .unreadable _ _ _ _⟩
    · obtain ⟨fault', hreal⟩ := hfail e he false
      rw [hreal] at hdone
      exact nomatch hdone
  | ok text =>
    have hsteps : ∀ e, Reached (outputs (byMode engine) options project) disk e → ∀ dry,
        renderFile (byMode engine) (options.withDryRun dry) (.ofProject project) declared.1
          declared.2 e = steps ((jobs options (.ofProject project) declared.1 declared.2 text).map
            fun job => job.run (byMode engine) (options.withDryRun dry)) e :=
      fun e he dry => renderFile_of_read ((hread e he text).mpr htext)
    have hjobs : Rehearses (Reached (outputs (byMode engine) options project) disk) disk
        (steps ((jobs options (.ofProject project) declared.1 declared.2 text).map
          fun job => job.run (byMode engine) (options.withDryRun true)))
        (steps ((jobs options (.ofProject project) declared.1 declared.2 text).map
          fun job => job.run (byMode engine) (options.withDryRun false))) :=
      rehearses_steps (fun job => run_dry rfl job disk) fun job hjob =>
        rehearses_run fun _ => mem_outputs hdeclared hjob
    refine ⟨fun e he => ?_, fun e he hdone => ?_⟩
    · rw [hsteps e he, hsteps disk (.refl _ _)]
      exact hjobs.foretells e he
    · rw [hsteps e he] at hdone ⊢
      exact hjobs.sync e he hdone

/-- **A run is rehearsed** by the dry one. -/
theorem rehearses_renderProject (htree : disk.IsTree)
    (hseparate : Separate (byMode engine) options project disk) :
    Rehearses (Reached (outputs (byMode engine) options project) disk) disk
      (renderProject (byMode engine) (options.withDryRun true) project)
      (renderProject (byMode engine) (options.withDryRun false) project) := by
  rw [renderProject_eq_steps, renderProject_eq_steps]
  exact rehearses_steps (fun declared => renderFile_dry rfl _ _ _ disk)
    fun declared hdeclared => rehearses_renderFile htree hseparate hdeclared

end Rehearsal

/-! ### What a dry run is worth -/

section Reports

variable {o : Outcome} {runId : String} {startedAt : Timestamp}

/-- There is a report when there is no failure. -/
theorem report_eq_ok_iff {report : RenderReport} : o.report runId startedAt = .ok report ↔
    o.failure = none ∧ ⟨runId, startedAt, o.files⟩ = report := by
  cases hend : o.failure with
  | none => simp [report_of_success hend]
  | some error => simp [Outcome.report, hend]

/-- There is an error when there is a failure. -/
theorem report_eq_error_iff {error : RenderError} : o.report runId startedAt = .error error ↔
    o.failure = some error := by
  cases hend : o.failure with
  | none => simp [report_of_success hend]
  | some error => simp [Outcome.report, hend]

end Reports

/-- A dry run reports no file as written. -/
theorem files_dry {expand : Expansion} {options : RenderOptions} (hdry : options.dryRun = true)
    (project : Project) (disk : Disk) :
    (renderProject expand options project disk).files.map (RenderedFile.withWritten false) =
      (renderProject expand options project disk).files := by
  have hentries : ∀ rs : List Rendering, (rs.map (Rendering.entry options)).map
      (RenderedFile.withWritten false) = rs.map (Rendering.entry options) := by
    intro rs
    rw [List.map_map]
    refine List.map_congr_left fun r _ => ?_
    simp [Rendering.entry, RenderJob.entry, RenderedFile.withWritten, hdry]
  obtain ⟨rs, last, hs⟩ | ⟨rs, error, left, hf⟩ := renderProject_obeys.total disk
  · rw [renderProject_obeys.done hs]
    exact hentries rs
  · rw [renderProject_obeys.failed hf]
    exact hentries rs

section Foretelling

variable (engine : Template.Mode → String → Tree → Except TemplateFault String)
  (options : RenderOptions) (project : Project)

/-- The run of a project that writes nothing. -/
def dryRun : Step := renderProject (byMode engine) (options.withDryRun true) project

/-- The run of a project that writes its files. -/
def realRun : Step := renderProject (byMode engine) (options.withDryRun false) project

variable {engine options project}

/-- The end of the real run decides on the end of the dry run. -/
theorem EndsAlike.failure_eq_none_iff (h : EndsAlike dry real) :
    dry.failure = none ↔ real.failure = none := by
  obtain ⟨disk, files, failure⟩ := dry
  obtain ⟨disk', files', failure'⟩ := real
  have hfailure : SameFailure failure failure' := h.failure
  cases hfailure <;> simp

/-- What is foretold of a run that comes to its end. -/
theorem Foretells.endsAlike (h : Foretells dry real) (hreal : real.failure = none) :
    EndsAlike dry real := by
  obtain h | ⟨_, _, _, _, -, -, hfailure⟩ := h
  · exact h
  · exact nomatch hfailure.symm.trans hreal

/-- A run that is foretold to fail does so. -/
theorem Foretells.exists_failure (h : Foretells dry real) {error : RenderError}
    (hdry : dry.failure = some error) : ∃ error', real.failure = some error' := by
  cases hreal : real.failure with
  | some error' => exact ⟨error', rfl⟩
  | none =>
    have hnone := (h.endsAlike hreal).failure_eq_none_iff.mpr hreal
    exact nomatch hdry.symm.trans hnone

/-- **A dry run foretells the run that writes.** In any case it leaves the disk as it is. If the
outputs keep clear of the templates, it moreover comes to its end with the same files whenever
the other run does; and when it fails, the other run fails as well, at the same step or at a
write before it. -/
theorem dryRun_foretells (engine : Template.Mode → String → Tree → Except TemplateFault String)
    (options : RenderOptions) (project : Project) (disk : Disk) (runId : String)
    (startedAt : Timestamp) :
    (dryRun engine options project disk).disk = disk ∧
    (disk.IsTree → Separate (byMode engine) options project disk →
      (∀ report, (realRun engine options project disk).report runId startedAt = .ok report →
        (dryRun engine options project disk).report runId startedAt =
          .ok (report.withWritten false)) ∧
      ∀ error, (dryRun engine options project disk).report runId startedAt = .error error →
        ∃ error', (realRun engine options project disk).report runId startedAt = .error error' ∧
          (EndsAlike (dryRun engine options project disk) (realRun engine options project disk) ∨
            BreaksOff (dryRun engine options project disk)
              (realRun engine options project disk))) := by
  refine ⟨renderProject_dry rfl project disk, fun htree hseparate => ?_⟩
  have hforetells : Foretells (dryRun engine options project disk)
      (realRun engine options project disk) :=
    (rehearses_renderProject htree hseparate).foretells disk (.refl _ _)
  constructor
  · intro report hreport
    obtain ⟨hreal, rfl⟩ := report_eq_ok_iff.mp hreport
    have hends := hforetells.endsAlike hreal
    refine report_eq_ok_iff.mpr ⟨hends.failure_eq_none_iff.mpr hreal, ?_⟩
    have hfiles : (dryRun engine options project disk).files.map (RenderedFile.withWritten false) =
        (dryRun engine options project disk).files := files_dry rfl project disk
    rw [RenderReport.withWritten, hends.files, List.map_map]
    exact congrArg _ hfiles.symm
  · intro error herror
    obtain ⟨error', herror'⟩ := hforetells.exists_failure (report_eq_error_iff.mp herror)
    exact ⟨error', report_eq_error_iff.mpr herror', hforetells⟩

end Foretelling

/-- An engine that copies templates. -/
def copy : Template.Mode → String → Tree → Except TemplateFault String := fun _ text _ => .ok text

/-- The gallery rehearsed, with its templates and without them. -/
theorem dryRun_foretells_gallery :
    (∃ report, (realRun copy .default gallery galleryDisk).report "first" .epoch = .ok report ∧
      report.files.length = 3 ∧
      (dryRun copy .default gallery galleryDisk).report "first" .epoch =
        .ok (report.withWritten false)) ∧
    ∃ error error',
      (dryRun copy .default gallery .blank).report "first" .epoch = .error error ∧
      (realRun copy .default gallery .blank).report "first" .epoch = .error error' := by
  have hseparate : Separate (byMode copy) .default gallery galleryDisk :=
    ⟨by decide +kernel, by decide +kernel⟩
  have hreport := report_of_success (o := realRun copy .default gallery galleryDisk)
    (by decide +kernel) "first" .epoch
  obtain ⟨hdry, -⟩ := (dryRun_foretells copy .default gallery galleryDisk _ _).2
    ((isTree_blank.install _ _).install _ _) hseparate
  have hseparate' : Separate (byMode copy) .default gallery .blank :=
    ⟨by decide +kernel, by decide +kernel⟩
  have herror : (dryRun copy .default gallery .blank).report "first" .epoch =
      .error (.unreadable ⟨1, none⟩ "./index.hbs" .notFound) :=
    report_eq_error_iff.mpr (by decide +kernel)
  obtain ⟨-, hreal⟩ := (dryRun_foretells copy .default gallery .blank _ _).2 isTree_blank hseparate'
  obtain ⟨error', herror', -⟩ := hreal _ herror
  exact ⟨⟨_, hreport, by decide +kernel, hdry _ hreport⟩, _, error', herror, herror'⟩

end Render

end Blueprint
