import Blueprint.Proofs.Disk.Rewriting
import Blueprint.Proofs.Render.Templates

/-!
# Rendering again

A run that has come to its end can be made again, and nothing changes: it reports the same
files, and leaves the disk as it found it (`Blueprint.Render.renderProject_again`). In between the
disk does change. When two files of a project have the same output, the second run first puts
the content of the first one back, so its disks are not those of the first run, and only in the
end are the two alike (`Blueprint.Disk.Alike`).

| the first run | the second run |
|---|---|
| makes directories | finds them |
| leaves every output settled | finds them settled, and leaves them so |
| reads a template before some outputs are written | reads it after all of them |
| leaves in an output what was last written to it | leaves the same |

It takes outputs that do not get in each other's way (`Blueprint.Render.Undisturbed`): with a
temporary file where another output is, or where one has to have a directory, the second run
could fail, or lose what the first one wrote.
-/

namespace Blueprint

namespace Disk

/-- **Two disks are alike**: they have the same things at the same places. The order in which
they list them may differ. -/
structure Alike (d d' : Disk) : Prop where
  workingDirectory : d'.workingDirectory = d.workingDirectory
  entry : ∀ q, d'.entry? q = d.entry? q

end Disk

namespace Render

open Disk

variable {paths : List String} {disk d d' e e' last : Disk} {a b : String} {content : ByteArray}
  {rs : List Rendering} {p : Place}

/-- **Outputs that do not get in each other's way**: their paths do not lead up, and no temporary
file of one has the place of another, or of a directory above it. -/
structure Undisturbed (disk : Disk) (paths : List String) : Prop where
  dots : ∀ path ∈ paths, ".." ∉ Path.segments path
  temporary : ∀ a ∈ paths, ∀ b ∈ paths, ∀ t ∈ disk.temporaryPlace? a, ¬t <+: disk.place b

theorem Undisturbed.congr (h : Undisturbed d paths)
    (hwd : d'.workingDirectory = d.workingDirectory) : Undisturbed d' paths := by
  refine ⟨h.dots, fun a ha b hb t ht => ?_⟩
  rw [temporaryPlace?_congr hwd] at ht
  rw [place_congr hwd]
  exact h.temporary a ha b hb t ht

/-- A temporary file does not have the place of an output. -/
theorem Undisturbed.temporaryPlace?_ne (h : Undisturbed d paths) (ha : a ∈ paths) (hb : b ∈ paths) :
    d.temporaryPlace? a ≠ some (d.place b) := fun ht =>
  h.temporary a ha b hb _ ht List.prefix_rfl

/-! ### Settled outputs -/

/-- **A settled output stays settled** while another one is written, or itself. -/
theorem Undisturbed.settled_of_write (h : Undisturbed d paths) (ha : a ∈ paths) (hb : b ∈ paths)
    (hsettled : d.Settled a) (hw : d.writeAtomic b content = (d', none)) : d'.Settled a := by
  have hwrote := wrote_of_writeAtomic hw
  refine hsettled.mono hwrote.within ?_ fun t ht => ?_
  · by_cases hplace : d.place a = d.place b
    · exact ⟨content, hplace ▸ (find_eq_ok_iff.mp hwrote.found).2⟩
    · obtain ⟨before, hfind⟩ := hsettled.file
      have hkept := hwrote.kept _ hplace (h.temporaryPlace?_ne hb ha)
      exact ⟨before, hkept.of_some (find_eq_ok_iff.mp hfind).2⟩
  · have habove := h.temporary a ha b hb t ht
    by_cases htb : d.temporaryPlace? b = some t
    · exact hwrote.gone t (fun heq => habove (heq ▸ List.prefix_rfl)) htb
    · rw [entry?_of_writeAtomic hw (h.dots b hb) habove htb]
      exact hsettled.clear t ht

/-- **Outputs that were written are settled** in the end, and so are those that were before. -/
theorem Undisturbed.settled_of_stored (h : Undisturbed disk paths) (hs : Stored disk rs last)
    (hrs : ∀ r ∈ rs, r.output ∈ paths) :
    (∀ path ∈ paths, disk.Settled path → last.Settled path) ∧
      ∀ r ∈ rs, last.Settled r.output := by
  induction hs with
  | nil => exact ⟨fun _ _ hsettled => hsettled, List.forall_mem_nil _⟩
  | @cons r rs disk middle last hw _ ih =>
    rw [List.forall_mem_cons] at hrs ⊢
    have hwd := (wrote_of_writeAtomic hw).within.workingDirectory
    obtain ⟨hkeep, hnew⟩ := ih (h.congr hwd) hrs.2
    refine ⟨fun path hpath hsettled => ?_, ?_, hnew⟩
    · exact hkeep path hpath (h.settled_of_write hpath hrs.1 hsettled hw)
    · exact hkeep _ hrs.1 (settled_of_writeAtomic hw)

/-! ### Disks of the second run -/

/-- **What the second run makes of a disk**: outputs are still settled, and anything else is as it
was. -/
structure Rewritten (paths : List String) (d e : Disk) : Prop where
  workingDirectory : e.workingDirectory = d.workingDirectory
  entry : ∀ q, (∀ path ∈ paths, d.place path ≠ q) → e.entry? q = d.entry? q
  settled : ∀ path ∈ paths, e.Settled path

theorem Rewritten.refl (h : ∀ path ∈ paths, d.Settled path) : Rewritten paths d d :=
  ⟨rfl, fun _ _ => rfl, h⟩

/-- **An output can be written again.** -/
theorem Rewritten.write (h : Rewritten paths d e) (hd : Undisturbed d paths) (ha : a ∈ paths)
    (content : ByteArray) :
    ∃ e', e.writeAtomic a content = (e', none) ∧ Rewritten paths d e' := by
  obtain ⟨e', hw, hwd, hentry⟩ := (h.settled a ha).writeAtomic content
  refine ⟨e', hw, hwd.trans h.workingDirectory, fun q hq => ?_, fun path hpath => ?_⟩
  · rw [hentry, if_neg, h.entry q hq]
    rw [place_congr h.workingDirectory]
    exact (hq a ha).symm
  · exact (hd.congr h.workingDirectory).settled_of_write hpath ha (h.settled path hpath) hw

/-- Directories stay where outputs are written again. -/
theorem Rewritten.within (h : Rewritten paths d e) (hd : ∀ path ∈ paths, d.Settled path) :
    Within d e := by
  refine ⟨h.workingDirectory, fun q hq => ?_⟩
  rw [h.entry q, hq]
  -- An output is a file, and no directory.
  rintro path hpath rfl
  obtain ⟨content, hfind⟩ := (hd path hpath).file
  exact nomatch hq.symm.trans (find_eq_ok_iff.mp hfind).2

/-- What is no output is read as before. -/
theorem Rewritten.readText (h : Rewritten paths d e) (hd : ∀ path ∈ paths, d.Settled path)
    {input text : String} (hclear : ∀ path ∈ paths, d.KeepsClear path (d.place input))
    (hread : d.readText input = .ok text) : e.readText input = .ok text := by
  obtain ⟨p, content, hfind, hcontent⟩ := readText_eq_ok_iff.mp hread
  obtain ⟨hreaches, hfile⟩ := find_eq_ok_iff.mp hfind
  obtain rfl := hreaches.place_eq
  refine readText_eq_ok_iff.mpr ⟨d.place input, content, find_eq_ok_iff.mpr ⟨?_, ?_⟩, hcontent⟩
  · exact hreaches.mono (h.within hd)
  · rw [h.entry _ fun path hpath => (hclear path hpath).place, hfile]

/-! ### The second run -/

/-- **Something done can be done again** on any disk that the second run makes of the final one,
if that was reached by writing outputs afterwards. -/
def Replays (paths : List String) (final : Disk) (does : Disk → List Rendering → Disk → Prop) :
    Prop :=
  ∀ d rs last, does d rs last → (∀ r ∈ rs, r.output ∈ paths) → Reached paths last final →
    Reached paths d final ∧
      ∀ e, Rewritten paths final e → ∃ e', does e rs e' ∧ Rewritten paths final e'

/-- **What can be done again one by one can be done again one after another.** -/
theorem replays_sequence {α : Type} {final : Disk} {does : α → Disk → List Rendering → Disk → Prop}
    {as : List α} (h : ∀ a ∈ as, Replays paths final (does a)) :
    Replays paths final (Sequence does as) := by
  intro d rs last hs hrs hlast
  induction hs with
  | nil => exact ⟨hlast, fun e he => ⟨e, .nil, he⟩⟩
  | @cons a rest first more d middle last ha _ ih =>
    rw [List.forall_mem_append] at hrs
    rw [List.forall_mem_cons] at h
    obtain ⟨hmiddle, hrest⟩ := ih h.2 hrs.2 hlast
    obtain ⟨hd, hfirst⟩ := h.1 _ _ _ ha hrs.1 hmiddle
    refine ⟨hd, fun e he => ?_⟩
    obtain ⟨e', ha', he'⟩ := hfirst e he
    obtain ⟨e'', hrest', he''⟩ := hrest e' he'
    exact ⟨e'', .cons ha' hrest', he''⟩

section Replay

variable {expand : Expansion} {options : RenderOptions} {final : Disk}

/-- A job done can be done again. -/
theorem replays_jobDone (hdry : options.dryRun = false) (hfinal : Undisturbed final paths)
    (job : RenderJob) : Replays paths final (JobDone expand options job) := by
  intro d rs last hjob hrs hlast
  cases hjob with
  | dry hp hdry' => exact absurd (hdry'.symm.trans hdry) (by decide)
  | written hp _ hw =>
    have houtput := hrs _ List.mem_cons_self
    refine ⟨(Reached.of_write houtput hw).trans hlast, fun e he => ?_⟩
    obtain ⟨e', hw', he'⟩ := he.write hfinal houtput _
    exact ⟨e', .written hp hdry hw', he'⟩

/-- **A declaration done can be done again**: its template is still what it was. -/
theorem replays_fileDone {view : ProjectView} (hdry : options.dryRun = false)
    (hfinal : Undisturbed final paths) (hsettled : ∀ path ∈ paths, final.Settled path)
    {declared : Nat × OutputFile} (hclear : ∀ path ∈ paths, final.KeepsClear path
      (final.place (Path.join options.templateDir declared.2.input))) :
    Replays paths final (FileDone expand options view declared) := by
  rintro d rs last ⟨hread, hjobs⟩ hrs hlast
  obtain ⟨hd, hreplay⟩ :=
    replays_sequence (fun job _ => replays_jobDone hdry hfinal job) d rs last hjobs hrs hlast
  refine ⟨hd, fun e he => ?_⟩
  obtain ⟨e', hjobs', he'⟩ := hreplay e he
  refine ⟨e', .mk (he.readText hsettled hclear (hd.readText_of_before ?_ hread)) hjobs', he'⟩
  intro path hpath
  rw [← place_congr hd.workingDirectory]
  exact (hclear path hpath).congr hd.workingDirectory.symm

end Replay

/-! ### The last content -/

/-- **What was last written to an output is in it.** -/
theorem Stored.entry?_of_last {r : Rendering}
    (hw : disk.writeAtomic r.output r.content.toUTF8 = (d, none)) (h : Stored d rs last)
    (hlater : ∀ s ∈ rs, disk.place s.output ≠ disk.place r.output)
    (ht : ∀ s ∈ rs, disk.temporaryPlace? s.output ≠ some (disk.place r.output)) :
    last.entry? (disk.place r.output) = some (.file r.content.toUTF8) := by
  have hwrote := wrote_of_writeAtomic hw
  have hwd := hwrote.within.workingDirectory
  refine (h.entry?_iff ?_ (find_eq_ok_iff.mp hwrote.found).2).mpr ?_
  · simpa only [place_congr hwd] using hlater
  · simpa only [temporaryPlace?_congr hwd] using ht

/-- **The content of an output does not depend on the disk** that it was written to. -/
theorem Stored.entry?_eq (h : Stored disk rs last) (h' : Stored d rs d')
    (hwd : d.workingDirectory = disk.workingDirectory)
    (ht : ∀ r ∈ rs, disk.temporaryPlace? r.output ≠ some p)
    (hp : ∃ r ∈ rs, disk.place r.output = p) : d'.entry? p = last.entry? p := by
  induction h generalizing d with
  | nil =>
    obtain ⟨r, hr, -⟩ := hp
    exact nomatch hr
  | @cons r rs disk middle last hw hrest ih =>
    obtain _ | ⟨hw', hrest'⟩ := h'
    have hmiddle := (wrote_of_writeAtomic hw).within.workingDirectory
    have hmiddle' := (wrote_of_writeAtomic hw').within.workingDirectory
    rw [List.forall_mem_cons] at ht
    by_cases hlater : ∃ s ∈ rs, disk.place s.output = p
    · refine ih hrest' (hmiddle'.trans (hwd.trans hmiddle.symm)) ?_ ?_
      · simpa only [temporaryPlace?_congr hmiddle] using ht.2
      · simpa only [place_congr hmiddle] using hlater
    · -- This is the last one written there, on either disk.
      obtain ⟨s, hs, rfl⟩ := hp
      obtain rfl : s = r := (List.mem_cons.mp hs).resolve_right fun hs => hlater ⟨s, hs, rfl⟩
      have hothers : ∀ t ∈ rs, disk.place t.output ≠ disk.place s.output :=
        fun t ht heq => hlater ⟨t, ht, heq⟩
      have hlast := Stored.entry?_of_last hw hrest hothers ht.2
      have hplace := place_congr hwd s.output
      have hlast' : d'.entry? (d.place s.output) = some (.file s.content.toUTF8) := by
        refine Stored.entry?_of_last hw' hrest' ?_ ?_
        · simpa only [place_congr hwd] using hothers
        · simpa only [temporaryPlace?_congr hwd, place_congr hwd] using ht.2
      rw [hlast, ← hplace, hlast']

/-- **Outputs written twice are as if written once.** -/
theorem Rewritten.alike (h : Rewritten (rs.map (·.output)) d e)
    (hundisturbed : Undisturbed disk (rs.map (·.output))) (hfirst : Stored disk rs d)
    (hagain : Stored d rs e) : d.Alike e := by
  have hwd := hfirst.within.workingDirectory
  refine ⟨h.workingDirectory, fun q => ?_⟩
  by_cases hq : ∃ r ∈ rs, disk.place r.output = q
  · refine hfirst.entry?_eq hagain hwd (fun r hr => ?_) hq
    obtain ⟨s, hs, rfl⟩ := hq
    exact hundisturbed.temporaryPlace?_ne (List.mem_map_of_mem hr) (List.mem_map_of_mem hs)
  · refine h.entry q ?_
    rw [List.forall_mem_map]
    intro r hr hplace
    exact hq ⟨r, hr, (place_congr hwd r.output).symm.trans hplace⟩

/-! ### Rendering again -/

/-- **A run can be made again.** Suppose that a run comes to its end, that its outputs keep clear
of its templates, and that they do not get in each other's way. Then the same run on the disk
that it has left reports the same files, and leaves the disk as it is. Outputs may repeat. -/
theorem renderProject_again (expand : Expansion) (options : RenderOptions) (project : Project)
    (disk : Disk) (runId runId' : String) (startedAt startedAt' : Timestamp) (report : RenderReport)
    (hdry : options.dryRun = false)
    (hreport : (renderProject expand options project disk).report runId startedAt = .ok report)
    (hclear : ∀ file ∈ project.files, ∀ path ∈ report.files.map (·.output),
      disk.KeepsClear path (disk.place (Path.join options.templateDir file.input)))
    (hundisturbed : Undisturbed disk (report.files.map (·.output))) :
    (renderProject expand options project (renderProject expand options project disk).disk).report
        runId' startedAt' = .ok ⟨runId', startedAt', report.files⟩ ∧
      (renderProject expand options project disk).disk.Alike
        (renderProject expand options project
          (renderProject expand options project disk).disk).disk := by
  have hcourse := course_iff.mpr ⟨hreport, rfl⟩
  generalize (renderProject expand options project disk).disk = final at hcourse ⊢
  obtain hs | hf := hcourse
  rename_i rs
  have hpaths : (rs.map (Rendering.entry options)).map (·.output) = rs.map (·.output) := by
    rw [List.map_map]
    rfl
  rw [hpaths] at hclear hundisturbed
  have hstored := stored_of_sequence hdry hs
  have hwd := hstored.within.workingDirectory
  have hfinal := hundisturbed.congr hwd
  have hrs : ∀ r ∈ rs, r.output ∈ rs.map (·.output) := fun r hr => List.mem_map_of_mem hr
  have hsettled : ∀ path ∈ rs.map (·.output), final.Settled path := by
    rw [List.forall_mem_map]
    exact (hundisturbed.settled_of_stored hstored hrs).2
  have hreplays : Replays (rs.map (·.output)) final
      (Sequence (FileDone expand options (.ofProject project)) (declarations project)) := by
    refine replays_sequence fun declared hdeclared =>
      replays_fileDone hdry hfinal hsettled fun path hpath => ?_
    rw [place_congr hwd]
    exact (hclear _ (mem_files_of_mem_declarations hdeclared) path hpath).congr hwd
  obtain ⟨-, hreplay⟩ := hreplays disk rs final hs hrs (.refl _ _)
  obtain ⟨again, hagain, hrewritten⟩ := hreplay final (.refl hsettled)
  rw [renderProject_obeys.done hagain]
  exact ⟨report_of_success rfl _ _,
    hrewritten.alike hundisturbed hstored (stored_of_sequence hdry hagain)⟩

/-- The gallery with all its files in a directory, two of them under one name. -/
def album : Project := { gallery with
  files := [⟨.project, "index.hbs", "site/all.md"⟩, ⟨.object, "card.hbs", "site/cards/card.md"⟩] }

/-- The album rendered twice. -/
theorem renderProject_again_album : ∃ report,
    (renderProject echo .default album galleryDisk).report "first" .epoch = .ok report ∧
    report.files.map (·.output) =
      ["./site/all.md", "./site/cards/card.md", "./site/cards/card.md"] ∧
    (renderProject echo .default album (renderProject echo .default album galleryDisk).disk).report
      "second" ⟨⟨⟨2024, 1, 2⟩, 0, 0, 0, 0⟩, by decide⟩ =
        .ok ⟨"second", ⟨⟨⟨2024, 1, 2⟩, 0, 0, 0, 0⟩, by decide⟩, report.files⟩ ∧
    (renderProject echo .default album galleryDisk).disk.Alike
      (renderProject echo .default album (renderProject echo .default album galleryDisk).disk).disk := by
  obtain ⟨report, hreport, hfiles⟩ : ∃ report,
      (renderProject echo .default album galleryDisk).report "first" .epoch = .ok report ∧
        report.files.map (·.output) =
          ["./site/all.md", "./site/cards/card.md", "./site/cards/card.md"] := by
    obtain ⟨hdone, hfiles⟩ : (renderProject echo .default album galleryDisk).failure = none ∧
        (renderProject echo .default album galleryDisk).files.map (·.output) =
          ["./site/all.md", "./site/cards/card.md", "./site/cards/card.md"] := by
      decide +kernel
    -- Nothing more has to be known of the run, least of all by evaluation.
    generalize renderProject echo .default album galleryDisk = o at hdone hfiles ⊢
    exact ⟨_, report_of_success hdone _ _, hfiles⟩
  have hclear : ∀ file ∈ album.files,
      ∀ path ∈ ["./site/all.md", "./site/cards/card.md", "./site/cards/card.md"],
        galleryDisk.KeepsClear path (galleryDisk.place
          (Path.join RenderOptions.default.templateDir file.input)) := by
    decide +kernel
  have hundisturbed : Undisturbed galleryDisk
      ["./site/all.md", "./site/cards/card.md", "./site/cards/card.md"] :=
    ⟨by decide +kernel, by decide +kernel⟩
  rw [← hfiles] at hclear hundisturbed
  exact ⟨report, hreport, hfiles,
    renderProject_again echo .default album galleryDisk _ _ _ _ report rfl hreport hclear hundisturbed⟩

end Render

end Blueprint
