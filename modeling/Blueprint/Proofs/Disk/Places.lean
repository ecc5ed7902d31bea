import Blueprint.Disk.Write
import Blueprint.Proofs.Outcome

/-!
# Places and the paths that lead to them

A path leads to a place in two ways. It can be followed on a disk, which has to have a
directory wherever the path goes through (`Blueprint.Disk.walk`), and it can be read without
looking at anything but the working directory (`Blueprint.Disk.place`). Where the first
comes to an end it comes to the second (`Blueprint.Disk.Reaches.place_eq`), so what a path
reaches does not change as long as the directories stay
(`Blueprint.Disk.Reaches.mono`).

| operation | what is at a place after it |
|---|---|
| `Disk.put` | `Blueprint.Disk.entry?_put` |
| `Disk.remove` | `Blueprint.Disk.entry?_remove` |
-/

namespace Blueprint

namespace Disk

variable {d d' : Disk} {p q : Place} {path : String}

/-! ### What is at a place -/

/-- The root is a directory, on every disk. -/
@[simp] theorem entry?_root (d : Disk) : d.entry? [] = some .directory := rfl

/-- A place without a directory is not the root. -/
theorem ne_root (h : d.entry? p ≠ some .directory) : p ≠ [] := by
  rintro rfl
  exact h rfl

/-- What is at a place other than the root is listed. -/
theorem entry?_eq_find? (h : p ≠ []) :
    d.entry? p = (d.entries.find? fun e => e.1 == p).map (·.2) :=
  if_neg h

/-- A removed place has nothing, and the others have what they had. -/
theorem entry?_remove (h : p ≠ []) (q : Place) :
    entry? (d.remove p) q = if q = p then none else d.entry? q := by
  by_cases hroot : q = []
  · subst hroot
    rw [if_neg h.symm, entry?_root, entry?_root]
  rw [entry?_eq_find? hroot, entry?_eq_find? hroot, remove, List.find?_filter]
  by_cases hq : q = p
  · subst hq
    rw [if_pos rfl, List.find?_eq_none.mpr (by simp), Option.map_none]
  · rw [if_neg hq]
    congr 2
    funext e
    by_cases he : e.1 = q
    · simp [he, hq]
    · simp [he]

/-- A place has what is put there, and the others have what they had. -/
theorem entry?_put (h : p ≠ []) (entry : DiskEntry) (q : Place) :
    entry? (d.put p entry) q = if q = p then some entry else d.entry? q := by
  have hremove := entry?_remove (d := d) h q
  by_cases hroot : q = []
  · subst hroot
    rw [if_neg h.symm, entry?_root, entry?_root]
  rw [entry?_eq_find? hroot] at hremove ⊢
  rw [put, List.find?_append]
  by_cases hq : q = p
  · subst hq
    rw [if_pos rfl] at hremove ⊢
    rw [remove, Option.map_eq_none_iff] at hremove
    simp [hremove]
  · rw [if_neg hq] at hremove ⊢
    rw [← hremove, remove]
    simp [Ne.symm hq]

/-! ### Paths read and followed -/

/-- One part of a path read, without looking at a disk. -/
def follow (p : Place) (part : String) : Place :=
  if Path.isSilent part then p else if part = ".." then p.dropLast else p ++ [part]

/-- **The place that a path names**, as seen from the working directory. -/
def place (d : Disk) (path : String) : Place :=
  (Path.segments path).foldl follow (d.origin path)

/-- The place that a path names depends on the working directory only. -/
theorem place_congr (h : d'.workingDirectory = d.workingDirectory) (path : String) :
    d'.place path = d.place path := by
  rw [place, place, origin, origin, h]

/-- A part that is not two dots does not lead up. -/
theorem prefix_follow {part : String} (h : part ≠ "..") : p <+: follow p part := by
  rw [follow, if_neg h]
  split
  · exact List.prefix_rfl
  · exact List.prefix_append p [part]

/-- **A path without two dots does not lead up.** -/
theorem prefix_foldl_follow {parts : List String} (h : ".." ∉ parts) :
    p <+: parts.foldl follow p := by
  induction parts generalizing p with
  | nil => exact List.prefix_rfl
  | cons part parts ih =>
    rw [List.mem_cons, not_or] at h
    exact (prefix_follow (Ne.symm h.1)).trans (ih h.2)

/-- **A part is followed where there is a directory**, and then it leads where it says. -/
theorem step_eq_ok_iff {part : String} :
    d.step p part = .ok q ↔ d.entry? p = some .directory ∧ follow p part = q := by
  rw [step, follow]
  cases d.entry? p with
  | none => simp
  | some entry =>
    cases entry with
    | file content => simp
    | directory => cases Path.isSilent part <;> by_cases hup : part = ".." <;> simp [hup]

/-- The parts of a path are followed one by one. -/
theorem walk_cons_eq_ok_iff {part : String} {parts : List String} :
    d.walk p (part :: parts) = .ok q ↔
      d.entry? p = some .directory ∧ d.walk (follow p part) parts = .ok q := by
  rw [walk, List.foldlM_cons, bind_eq_ok_iff]
  simp only [step_eq_ok_iff]
  constructor
  · rintro ⟨_, ⟨hdirectory, rfl⟩, hrest⟩
    exact ⟨hdirectory, hrest⟩
  · rintro ⟨hdirectory, hrest⟩
    exact ⟨_, ⟨hdirectory, rfl⟩, hrest⟩

/-- The last part of a path is followed from where the others lead. -/
theorem walk_concat_eq_ok_iff {part : String} {parts : List String} :
    d.walk p (parts ++ [part]) = .ok q ↔
      ∃ parent, d.walk p parts = .ok parent ∧ d.step parent part = .ok q := by
  rw [walk, List.foldlM_append, bind_eq_ok_iff]
  simp only [List.foldlM_cons, List.foldlM_nil, bind_pure]
  rfl

/-- **A path that can be followed leads to the place that it names.** -/
theorem foldl_follow_of_walk {parts : List String} (h : d.walk p parts = .ok q) :
    parts.foldl follow p = q := by
  induction parts generalizing p with
  | nil => exact Except.ok.inj h
  | cons part parts ih => exact ih (walk_cons_eq_ok_iff.mp h).2

/-- **The directories of a disk stay** on another one, which has the same working
directory. -/
structure Within (d d' : Disk) : Prop where
  workingDirectory : d'.workingDirectory = d.workingDirectory
  directories : ∀ q, d.entry? q = some .directory → d'.entry? q = some .directory

theorem Within.refl (d : Disk) : Within d d := ⟨rfl, fun _ h => h⟩

theorem Within.trans {d'' : Disk} (h : Within d d') (h' : Within d' d'') : Within d d'' :=
  ⟨h'.workingDirectory.trans h.workingDirectory, fun q hq => h'.directories q (h.directories q hq)⟩

/-- A file put where there is no directory. -/
theorem within_put (h : d.entry? p ≠ some .directory) (content : ByteArray) :
    Within d (d.put p (.file content)) := by
  refine ⟨rfl, fun q hq => ?_⟩
  rw [entry?_put (ne_root h), if_neg, hq]
  rintro rfl
  exact h hq

/-- Something removed that is no directory. -/
theorem within_remove (h : d.entry? p ≠ some .directory) : Within d (d.remove p) := by
  refine ⟨rfl, fun q hq => ?_⟩
  rw [entry?_remove (ne_root h), if_neg, hq]
  rintro rfl
  exact h hq

/-- What can be followed on a disk can be followed where its directories stay. -/
theorem Within.walk (h : Within d d') {parts : List String} (hw : d.walk p parts = .ok q) :
    d'.walk p parts = .ok q := by
  induction parts generalizing p with
  | nil => exact hw
  | cons part parts ih =>
    obtain ⟨hdirectory, hrest⟩ := walk_cons_eq_ok_iff.mp hw
    exact walk_cons_eq_ok_iff.mpr ⟨h.directories _ hdirectory, ih hrest⟩

/-- **A path reaches a place**: every part of it can be followed. Something may be at the
place or not. -/
structure Reaches (d : Disk) (path : String) (p : Place) : Prop where
  check : checkPath path = .ok ()
  walk : d.walk (d.origin path) (Path.segments path) = .ok p

/-- A path reaches the place that it names, and no other. -/
theorem Reaches.place_eq (h : Reaches d path p) : d.place path = p :=
  foldl_follow_of_walk h.walk

/-- **A path keeps reaching its place** where the directories stay. -/
theorem Reaches.mono (h : Reaches d path p) (hd : Within d d') : Reaches d' path p where
  check := h.check
  walk := by
    rw [origin, hd.workingDirectory]
    exact hd.walk h.walk

/-- What a path leads to is what is at the place that it reaches. -/
theorem find_eq_ok_iff {entry : DiskEntry} :
    d.find path = .ok (p, entry) ↔ Reaches d path p ∧ d.entry? p = some entry := by
  rw [find]
  simp only [bind_eq_ok_iff]
  constructor
  · rintro ⟨_, hcheck, reached, hwalk, hfound⟩
    cases hentry : d.entry? reached with
    | none => exact nomatch (hentry ▸ hfound)
    | some found =>
      rw [hentry] at hfound
      obtain ⟨rfl, rfl⟩ := Prod.mk.inj (Except.ok.inj hfound)
      exact ⟨⟨hcheck, hwalk⟩, hentry⟩
  · rintro ⟨⟨hcheck, hwalk⟩, hentry⟩
    exact ⟨_, hcheck, p, hwalk, by rw [hentry]⟩

/-! ### Where something is made -/

/-- The parts of a path without a slash at its end are all its parts. -/
theorem eq_segments_of_splitEnd {parts : List String} (h : splitEnd path = (parts, false)) :
    parts = Path.segments path := by
  rw [splitEnd, Prod.mk.injEq, decide_eq_false_iff_not, Decidable.not_not] at h
  obtain ⟨rfl, hlength⟩ := h
  have hprefix : ((Path.segments path).reverse.dropWhile fun part => part = "").reverse <+:
      Path.segments path := by
    rw [← List.reverse_suffix, List.reverse_reverse]
    exact List.dropWhile_suffix _
  exact hprefix.eq_of_length hlength

/-- **What a path would make**: its last name, which is no dots, in the directory that the
parts before it lead to. -/
theorem target_eq_named_iff {slash : Bool} : d.target path = .ok (.named p slash) ↔
    checkPath path = .ok () ∧ ∃ init name, splitEnd path = (init ++ [name], slash) ∧
      name ≠ "." ∧ name ≠ ".." ∧ d.walk (d.origin path) (init ++ [name]) = .ok p := by
  rw [target, bind_eq_ok_iff]
  rcases hsplit : splitEnd path with ⟨parts, ends⟩
  simp only [bind_eq_ok_iff, Prod.mk.injEq]
  constructor
  · rintro ⟨_, hcheck, parent, hparent, h⟩
    cases hlast : parts.getLast? with
    | none => exact nomatch (hlast ▸ h)
    | some name =>
      rw [hlast] at h
      obtain ⟨made, hmade, h⟩ := bind_eq_ok_iff.mp h
      split at h
      · exact nomatch h
      next hdots =>
        simp only [Bool.or_eq_true, decide_eq_true_eq, not_or] at hdots
        obtain ⟨rfl, rfl⟩ := Target.named.inj (Except.ok.inj h)
        obtain ⟨init, rfl⟩ := List.getLast?_eq_some_iff.mp hlast
        rw [List.dropLast_concat] at hparent
        exact ⟨hcheck, init, name, ⟨rfl, rfl⟩, hdots.1, hdots.2,
          walk_concat_eq_ok_iff.mpr ⟨parent, hparent, hmade⟩⟩
  · rintro ⟨hcheck, init, name, ⟨rfl, rfl⟩, hdot, hdots, hwalk⟩
    obtain ⟨parent, hparent, hmade⟩ := walk_concat_eq_ok_iff.mp hwalk
    refine ⟨_, hcheck, parent, by rwa [List.dropLast_concat], ?_⟩
    rw [List.getLast?_concat]
    refine bind_eq_ok_iff.mpr ⟨p, hmade, ?_⟩
    simp [hdot, hdots]

/-- **A path that names something to be made reaches its place**, unless a slash follows
the name. -/
theorem reaches_of_target (h : d.target path = .ok (.named p false)) : Reaches d path p := by
  obtain ⟨hcheck, init, name, hsplit, -, -, hwalk⟩ := target_eq_named_iff.mp h
  refine ⟨hcheck, ?_⟩
  rwa [← eq_segments_of_splitEnd hsplit]

end Disk

end Blueprint
