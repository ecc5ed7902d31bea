import Blueprint.Proofs.Disk.Trees
import Blueprint.Proofs.Render.Outputs

/-!
# Templates while outputs are written

A run reads one template after another, and writes files in between. So what it reads later
it reads from a disk that it has changed. This makes no difference as long as the outputs
keep clear of the templates (`Blueprint.Disk.KeepsClear`): no output, and no temporary file of
one, has the place of a template.

* What can be read before outputs are written can be read after
  (`Blueprint.Render.Reached.readText_of_before`).
* What can be read after could be read before, if directories that were made in between do not
  help (`Blueprint.Render.Reached.readText_iff`). They could with a path that goes through one of
  them and up again, or on a disk where a file is in no directory.
-/

namespace Blueprint

namespace Disk

/-- **A path keeps clear of a place**: neither the path leads there, nor that of its temporary
file. -/
structure KeepsClear (d : Disk) (path : String) (p : Place) : Prop where
  place : d.place path ≠ p
  temporaryPlace : d.temporaryPlace? path ≠ some p

instance (d : Disk) (path : String) (p : Place) : Decidable (d.KeepsClear path p) :=
  decidable_of_iff (d.place path ≠ p ∧ d.temporaryPlace? path ≠ some p)
    ⟨fun h => ⟨h.1, h.2⟩, fun h => ⟨h.place, h.temporaryPlace⟩⟩

theorem KeepsClear.congr {d d' : Disk} {path : String} {p : Place} (h : d.KeepsClear path p)
    (hwd : d'.workingDirectory = d.workingDirectory) : d'.KeepsClear path p :=
  ⟨place_congr hwd path ▸ h.place, temporaryPlace?_congr hwd path ▸ h.temporaryPlace⟩

/-- **A text is read where a path finds a file** that is one. -/
theorem readText_eq_ok_iff {d : Disk} {path text : String} : d.readText path = .ok text ↔
    ∃ p content, d.find path = .ok (p, .file content) ∧ String.fromUTF8? content = some text := by
  rw [readText, bind_eq_ok_iff]
  constructor
  · rintro ⟨⟨p, entry⟩, hfind, h⟩
    cases entry with
    | directory => exact nomatch h
    | file content =>
      refine ⟨p, content, hfind, ?_⟩
      cases hcontent : String.fromUTF8? content with
      | none => simp [hcontent] at h
      | some found => simpa [hcontent] using h
  · rintro ⟨p, content, hfind, hcontent⟩
    exact ⟨_, hfind, by simp [hcontent]⟩

end Disk

namespace Render

open Disk

variable {rs : List Rendering} {disk last : Disk} {input text : String}

/-- **What can be read stays as it is** while outputs are written that keep clear of it. -/
theorem Stored.readText_of_before (h : Stored disk rs last)
    (hclear : ∀ r ∈ rs, disk.KeepsClear r.output (disk.place input))
    (hread : disk.readText input = .ok text) : last.readText input = .ok text := by
  obtain ⟨p, content, hfind, hcontent⟩ := readText_eq_ok_iff.mp hread
  obtain rfl := (find_eq_ok_iff.mp hfind).1.place_eq
  refine readText_eq_ok_iff.mpr ⟨disk.place input, content, ?_, hcontent⟩
  exact (h.find_iff (fun r hr => (hclear r hr).place) hfind).mpr
    fun r hr => (hclear r hr).temporaryPlace

/-- **Nothing becomes readable** by outputs that keep clear of it, if its path only leads
down. -/
theorem Stored.readText_of_after (h : Stored disk rs last) (htree : disk.IsTree)
    (hdots : ".." ∉ Path.segments input)
    (hclear : ∀ r ∈ rs, disk.KeepsClear r.output (disk.place input))
    (hread : last.readText input = .ok text) : disk.readText input = .ok text := by
  obtain ⟨p, content, hfind, hcontent⟩ := readText_eq_ok_iff.mp hread
  obtain ⟨hreaches, hfile⟩ := find_eq_ok_iff.mp hfind
  have hwd := h.within.workingDirectory
  obtain rfl : disk.place input = p := (place_congr hwd input).symm.trans hreaches.place_eq
  -- The file was there before, as no output came to its place.
  have hplaces : ∀ r ∈ rs, disk.place r.output ≠ disk.place input :=
    fun r hr => (hclear r hr).place
  obtain ⟨before, hbefore⟩ : ∃ before, disk.entry? (disk.place input) = some (.file before) := by
    by_contra hnone
    exact h.no_file hplaces (fun content hcontent => hnone ⟨content, hcontent⟩) content hfile
  have hkept := (h.entry?_iff hplaces hbefore).mpr fun r hr => (hclear r hr).temporaryPlace
  obtain rfl : before = content := by
    rw [hkept] at hfile
    exact DiskEntry.file.inj (Option.some.inj hfile)
  refine readText_eq_ok_iff.mpr ⟨disk.place input, before, find_eq_ok_iff.mpr ⟨?_, hbefore⟩, hcontent⟩
  exact htree.reaches_of_file hwd.symm hdots hreaches hbefore hfile

/-! ### Disks reached by writing -/

/-- **A disk is reached from another one** by writing at some paths. -/
def Reached (paths : List String) (disk last : Disk) : Prop :=
  ∃ rs, (∀ r ∈ rs, r.output ∈ paths) ∧ Stored disk rs last

section Reached

variable {paths : List String} {middle : Disk}

theorem Reached.refl (paths : List String) (disk : Disk) : Reached paths disk disk :=
  ⟨[], List.forall_mem_nil _, .nil⟩

theorem Reached.trans (h : Reached paths disk middle) (h' : Reached paths middle last) :
    Reached paths disk last := by
  obtain ⟨rs, hrs, hstored⟩ := h
  obtain ⟨more, hmore, hstored'⟩ := h'
  refine ⟨rs ++ more, fun r hr => ?_, hstored.append hstored'⟩
  exact (List.mem_append.mp hr).elim (hrs r) (hmore r)

theorem Reached.of_write {r : Rendering} (hr : r.output ∈ paths)
    (hw : disk.writeAtomic r.output r.content.toUTF8 = (last, none)) : Reached paths disk last :=
  ⟨[r], by simpa using hr, .cons hw .nil⟩

theorem Reached.workingDirectory (h : Reached paths disk last) :
    last.workingDirectory = disk.workingDirectory := by
  obtain ⟨rs, -, hstored⟩ := h
  exact hstored.within.workingDirectory

/-- **What can be read stays as it is** while files are written that keep clear of it. -/
theorem Reached.readText_of_before (h : Reached paths disk last)
    (hclear : ∀ path ∈ paths, disk.KeepsClear path (disk.place input))
    (hread : disk.readText input = .ok text) : last.readText input = .ok text := by
  obtain ⟨rs, hrs, hstored⟩ := h
  exact hstored.readText_of_before (fun r hr => hclear _ (hrs r hr)) hread

/-- **What is read does not depend on what was written**, if that keeps clear of it. -/
theorem Reached.readText_iff (h : Reached paths disk last) (htree : disk.IsTree)
    (hdots : ".." ∉ Path.segments input)
    (hclear : ∀ path ∈ paths, disk.KeepsClear path (disk.place input)) :
    last.readText input = .ok text ↔ disk.readText input = .ok text := by
  refine ⟨?_, h.readText_of_before hclear⟩
  obtain ⟨rs, hrs, hstored⟩ := h
  exact hstored.readText_of_after htree hdots fun r hr => hclear _ (hrs r hr)

end Reached

end Render

end Blueprint
