import Blueprint.Proofs.Disk.Writing
import Blueprint.Proofs.Render.Course

/-!
# What is left of the outputs of a run

A run that comes to its end reports every file that it wrote, and one would like to find
each of them on the disk, with the content that was rendered for it. It is not always so,
even if all outputs go to different places: a file is written by way of a temporary file
beside it, and that one replaces whatever has its name. So an output `x.txt.tmp` is lost
when `x.txt` is written after it (`Blueprint.Render.output_lost`).

This is the only way to lose an output. The outputs of a run are all there, each with its
content, exactly when none of them has the place of the temporary file of a later one
(`Blueprint.Render.outputs_found_iff`).
-/

namespace Blueprint

namespace Render

open Disk

/-! ### Files written one after another -/

/-- **Renderings written one after another**, each without a fault. -/
inductive Stored : Disk → List Rendering → Disk → Prop
  | nil {disk : Disk} : Stored disk [] disk
  | cons {r : Rendering} {rs : List Rendering} {disk middle last : Disk} :
      disk.writeAtomic r.output r.content.toUTF8 = (middle, none) → Stored middle rs last →
      Stored disk (r :: rs) last

variable {rs more : List Rendering} {disk middle last : Disk} {p : Place} {path : String}
  {content : ByteArray}

theorem Stored.append (h : Stored disk rs middle) (h' : Stored middle more last) :
    Stored disk (rs ++ more) last := by
  induction h with
  | nil => exact h'
  | cons hw _ ih => exact .cons hw (ih h')

/-- **A run that is no dry run writes its renderings**, one after another. -/
theorem stored_of_sequence {expand : Expansion} {options : RenderOptions} {view : ProjectView}
    {ds : List (Nat × OutputFile)} (hdry : options.dryRun = false)
    (h : Sequence (FileDone expand options view) ds disk rs last) : Stored disk rs last := by
  refine h.compose (fun _ => .nil) Stored.append ?_
  rintro declared disk rs last ⟨-, hjobs⟩
  refine hjobs.compose (fun _ => .nil) Stored.append ?_
  rintro job disk rs last (⟨-, hdry'⟩ | ⟨-, -, hw⟩)
  · exact absurd (hdry'.symm.trans hdry) (by decide)
  · exact .cons hw .nil

/-- Directories stay while files are written. -/
theorem Stored.within (h : Stored disk rs last) : Within disk last := by
  induction h with
  | nil => exact .refl _
  | cons hw _ ih => exact (wrote_of_writeAtomic hw).within.trans ih

/-! ### What becomes of a file -/

/-- No file turns up at a place that is none of the outputs. -/
theorem Stored.no_file (h : Stored disk rs last) (hp : ∀ r ∈ rs, disk.place r.output ≠ p)
    (hfile : ∀ content, disk.entry? p ≠ some (.file content)) (content : ByteArray) :
    last.entry? p ≠ some (.file content) := by
  induction h with
  | nil => exact hfile content
  | @cons r rs disk middle last hw _ ih =>
    rw [List.forall_mem_cons] at hp
    have hwrote := wrote_of_writeAtomic hw
    refine ih ?_ fun content hmiddle => ?_
    · simpa only [place_congr hwrote.within.workingDirectory] using hp.2
    -- A write leaves nothing at the place, or what was there, or a new directory.
    by_cases ht : disk.temporaryPlace? r.output = some p
    · rw [hwrote.gone p hp.1.symm ht] at hmiddle
      exact nomatch hmiddle
    · obtain hkept | ⟨-, hmade⟩ := hwrote.kept p hp.1.symm ht
      · exact hfile content (hkept ▸ hmiddle)
      · exact nomatch (hmade ▸ hmiddle)

/-- **A file stays** as long as it is not the temporary file of one that is written. -/
theorem Stored.entry?_iff (h : Stored disk rs last) (hp : ∀ r ∈ rs, disk.place r.output ≠ p)
    (hfile : disk.entry? p = some (.file content)) :
    last.entry? p = some (.file content) ↔ ∀ r ∈ rs, disk.temporaryPlace? r.output ≠ some p := by
  induction h with
  | nil => simpa using hfile
  | @cons r rs disk middle last hw hrest ih =>
    rw [List.forall_mem_cons] at hp ⊢
    have hwrote := wrote_of_writeAtomic hw
    have hdirectory := hwrote.within.workingDirectory
    have hp' : ∀ r ∈ rs, middle.place r.output ≠ p := by
      simpa only [place_congr hdirectory] using hp.2
    by_cases ht : disk.temporaryPlace? r.output = some p
    · -- The file is gone at once, and no other one comes to its place.
      have hgone := hwrote.gone p hp.1.symm ht
      exact iff_of_false (hrest.no_file hp' (by simp [hgone]) content) fun h => h.1 ht
    · have hkept := (hwrote.kept p hp.1.symm ht).of_some hfile
      rw [ih hp' hkept, and_iff_right ht]
      simp only [temporaryPlace?_congr hdirectory]

/-- A file that a path finds is still found if and only if it stays. -/
theorem Stored.find_iff (h : Stored disk rs last) (hp : ∀ r ∈ rs, disk.place r.output ≠ p)
    (hfound : disk.find path = .ok (p, .file content)) :
    last.find path = .ok (p, .file content) ↔
      ∀ r ∈ rs, disk.temporaryPlace? r.output ≠ some p := by
  obtain ⟨hreaches, hfile⟩ := find_eq_ok_iff.mp hfound
  rw [find_eq_ok_iff, and_iff_right (hreaches.mono h.within), h.entry?_iff hp hfile]

/-- **What is written at different places is found there**, exactly as far as nothing has the
place of the temporary file of something later. -/
theorem Stored.found_iff (h : Stored disk rs last)
    (hdistinct : rs.Pairwise fun r s => disk.place r.output ≠ disk.place s.output) :
    (∀ r ∈ rs, last.find r.output = .ok (disk.place r.output, .file r.content.toUTF8)) ↔
      rs.Pairwise fun r s => disk.temporaryPlace? s.output ≠ some (disk.place r.output) := by
  induction h with
  | nil => simp
  | @cons r rs disk middle last hw hrest ih =>
    rw [List.pairwise_cons] at hdistinct ⊢
    have hwrote := wrote_of_writeAtomic hw
    have hdirectory := hwrote.within.workingDirectory
    simp only [place_congr hdirectory, temporaryPlace?_congr hdirectory] at ih
    have hlater : ∀ s ∈ rs, middle.place s.output ≠ disk.place r.output := by
      intro s hs
      rw [place_congr hdirectory]
      exact (hdistinct.1 s hs).symm
    -- The first file is found once it is written; the rest decides whether it still is at the end.
    rw [List.forall_mem_cons, ih hdistinct.2, hrest.find_iff hlater hwrote.found]
    simp only [temporaryPlace?_congr hdirectory]

/-! ### The outputs of a run -/

/-- **The outputs of a run are all there**, each with the content rendered for it, exactly
when none of them has the place of the temporary file of a later one. -/
theorem outputs_found_iff (expand : Expansion) (options : RenderOptions) (project : Project)
    (disk : Disk) (runId : String) (startedAt : Timestamp) (report : RenderReport)
    (hdry : options.dryRun = false)
    (hreport : (renderProject expand options project disk).report runId startedAt = .ok report)
    (hdistinct : report.files.Pairwise fun f g => disk.place f.output ≠ disk.place g.output) :
    ∃ rs, Sequence (FileDone expand options (.ofProject project)) (declarations project) disk rs
        (renderProject expand options project disk).disk ∧
      report.files = rs.map (Rendering.entry options) ∧
      ((∀ r ∈ rs, (renderProject expand options project disk).disk.find r.output =
          .ok (disk.place r.output, .file r.content.toUTF8)) ↔
        report.files.Pairwise fun f g =>
          disk.temporaryPlace? g.output ≠ some (disk.place f.output)) := by
  obtain hs | hf := course_iff.mpr ⟨hreport, rfl⟩
  rename_i rs
  refine ⟨rs, hs, rfl, ?_⟩
  rw [List.pairwise_map] at hdistinct ⊢
  exact (stored_of_sequence hdry hs).found_iff hdistinct

/-- A project with an output that has the temporary name of the next one. -/
def clash : Project where
  name := "Clash"
  attributes := .empty
  dataTypes := builtinDataTypes
  objects := [⟨"A", [], [], [], [], .empty⟩]
  files := [⟨.project, "a.hbs", "x.txt.tmp"⟩, ⟨.project, "b.hbs", "x.txt"⟩]

/-- The same project, with its outputs the other way round. -/
def turnedClash : Project := { clash with files := clash.files.reverse }

/-- Templates in one directory, and outputs in another. -/
def clashOptions : RenderOptions :=
  { RenderOptions.default with templateDir := "t", outputDir := "out" }

/-- A disk with the templates of the clash. -/
def clashDisk : Disk :=
  (Disk.blank.install "t/a.hbs" (.file "first\n".toUTF8)).install "t/b.hbs"
    (.file "second\n".toUTF8)

/-- With the temporary name second, both outputs are there. -/
theorem outputs_found_turnedClash : ∃ rs,
    Sequence (FileDone echo clashOptions (.ofProject turnedClash)) (declarations turnedClash)
      clashDisk rs (renderProject echo clashOptions turnedClash clashDisk).disk ∧
    ∀ r ∈ rs, (renderProject echo clashOptions turnedClash clashDisk).disk.find r.output =
      .ok (clashDisk.place r.output, .file r.content.toUTF8) := by
  have hreport := report_of_success (o := renderProject echo clashOptions turnedClash clashDisk)
    (by decide +kernel) "first" .epoch
  obtain ⟨rs, hrs, -, hfound⟩ := outputs_found_iff _ _ _ _ _ _ _ rfl hreport (by decide +kernel)
  exact ⟨rs, hrs, hfound.mpr (by decide +kernel)⟩

/-- **An output may be lost.** With the temporary name first, a run reports two outputs at
different places as written, and one of them is not there. -/
theorem output_lost : ∃ report,
    (renderProject echo clashOptions clash clashDisk).report "first" .epoch = .ok report ∧
    (report.files.Pairwise fun f g => clashDisk.place f.output ≠ clashDisk.place g.output) ∧
    ∃ f ∈ report.files, f.written = true ∧
      (renderProject echo clashOptions clash clashDisk).disk.isFile f.output = false := by
  refine ⟨_, report_of_success (by decide +kernel) _ _, ?_, ?_⟩
  · decide +kernel
  · decide +kernel

end Render

end Blueprint
