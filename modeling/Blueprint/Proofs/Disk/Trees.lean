import Blueprint.Proofs.Disk.Paths
import Blueprint.Proofs.Disk.Writing
import Mathlib.Data.List.Induction

/-!
# Disks that are trees

A disk says what is at each place, and nothing keeps it from saying that there is a file
where there is no directory for it. Disks are better than that: what is on them is in
directories, all the way up to the root (`Blueprint.Disk.IsTree`). Every operation leaves a tree
of a tree, also one that fails on the way, so every disk that anything is ever done to is one.

In a tree a path without two dots only leads down, and to what it leads to it leads through
nothing but directories. So whether such a path reaches a file depends on the file alone
(`Blueprint.Disk.IsTree.reaches_of_file`).
-/

namespace Blueprint

namespace Disk

variable {d d' : Disk} {p q : Place} {path : String} {content : ByteArray}

/-- **A tree**: whatever is somewhere is in a directory. -/
def IsTree (d : Disk) : Prop :=
  ∀ p name, d.entry? (p ++ [name]) ≠ none → d.entry? p = some .directory

/-! ### Up and down -/

/-- **What is on a tree is in directories**, up to the root. -/
theorem IsTree.directory_of_isPrefix (hd : d.IsTree) (hp : d.entry? p ≠ none) (hq : q <+: p)
    (hne : q ≠ p) : d.entry? q = some .directory := by
  obtain ⟨below, rfl⟩ := hq
  -- Of what is below the place, one name is taken away at a time.
  induction below using List.reverseRecOn with
  | nil => exact absurd (List.append_nil q).symm hne
  | append_singleton below name ih =>
    rw [← List.append_assoc] at hp
    have hparent := hd _ _ hp
    by_cases hbelow : below = []
    · rwa [hbelow, List.append_nil] at hparent
    · exact ih (by simp [hparent]) (by simpa using hbelow)

/-- A path without two dots can be followed wherever there are the directories that it leads
down through. -/
theorem walk_of_directories {parts : List String} (hdots : ".." ∉ parts)
    (hd : ∀ r, r <+: q → d'.entry? r = some .directory → d.entry? r = some .directory)
    (h : d'.walk p parts = .ok q) : d.walk p parts = .ok q := by
  induction parts generalizing p with
  | nil => exact h
  | cons part parts ih =>
    obtain ⟨hdirectory, hrest⟩ := walk_cons_eq_ok_iff.mp h
    have hbelow : p <+: q := by
      rw [← foldl_follow_of_walk h]
      exact prefix_foldl_follow hdots
    exact walk_cons_eq_ok_iff.mpr ⟨hd p hbelow hdirectory, ih (List.not_mem_of_not_mem_cons hdots) hrest⟩

/-- **A file on a tree is reached by every path that leads down to it**: if one does so on some
disk, then on the tree as well. -/
theorem IsTree.reaches_of_file (hd : d.IsTree) (hwd : d.workingDirectory = d'.workingDirectory)
    (hdots : ".." ∉ Path.segments path) (h : Reaches d' path p)
    (hfile : d.entry? p = some (.file content)) (hfile' : d'.entry? p = some (.file content)) :
    Reaches d path p where
  check := h.check
  walk := by
    rw [origin, hwd]
    refine walk_of_directories hdots (fun r hr hdirectory => ?_) h.walk
    refine hd.directory_of_isPrefix (by simp [hfile]) hr ?_
    -- The path does not go through the file itself, which is no directory.
    rintro rfl
    cases hdirectory.symm.trans hfile'

/-! ### Operations on trees -/

/-- Something can be put under a name in a directory, if there is no directory yet. -/
theorem IsTree.put (hd : d.IsTree) {parent : Place} {name : String} (entry : DiskEntry)
    (hparent : d.entry? parent = some .directory)
    (hp : d.entry? (parent ++ [name]) ≠ some .directory) :
    IsTree (d.put (parent ++ [name]) entry) := by
  intro q name' hq
  rw [entry?_put (ne_root hp)] at hq ⊢
  -- What has something in it was a directory before, so it is not where something is put.
  have hdirectory : d.entry? q = some .directory := by
    split at hq
    next heq => rwa [(List.append_inj' heq rfl).1]
    next => exact hd q name' hq
  rw [if_neg, hdirectory]
  rintro rfl
  exact hp hdirectory

/-- Something that is no directory can be taken away. -/
theorem IsTree.remove (hd : d.IsTree) (hp : d.entry? p ≠ some .directory) :
    IsTree (d.remove p) := by
  intro q name hq
  rw [entry?_remove (ne_root hp)] at hq ⊢
  have hdirectory : d.entry? q = some .directory := by
    split at hq
    · exact absurd rfl hq
    · exact hd q name hq
  rw [if_neg, hdirectory]
  rintro rfl
  exact hp hdirectory

/-- What a path leads to, when it is no directory, has a name in one. -/
theorem IsTree.exists_parent (hd : d.IsTree) {start : Place} {init : List String} {name : String}
    (h : d.walk start (init ++ [name]) = .ok p) (hp : d.entry? p ≠ some .directory) :
    ∃ parent, p = parent ++ [name] ∧ d.entry? parent = some .directory := by
  obtain ⟨parent, -, hstep⟩ := walk_concat_eq_ok_iff.mp h
  obtain ⟨hparent, rfl⟩ := step_eq_ok_iff.mp hstep
  rw [follow] at hp ⊢
  split at hp
  · exact absurd hparent hp
  split at hp
  -- Two dots lead to a directory again, the one that the directory is in.
  · obtain rfl | ⟨above, last, rfl⟩ := List.eq_nil_or_concat parent
    · exact absurd hparent hp
    · rw [List.concat_eq_append] at hparent hp
      rw [List.dropLast_concat] at hp
      exact absurd (hd above last (by simp [hparent])) hp
  · next hsilent hdots =>
    rw [if_neg hsilent, if_neg hdots]
    exact ⟨parent, rfl, hparent⟩

theorem IsTree.createDirectory (hd : d.IsTree) (h : d.createDirectory path = .ok d') :
    d'.IsTree := by
  obtain ⟨p, slash, htarget, hp, rfl⟩ := createDirectory_eq_ok h
  obtain ⟨-, init, name, -, -, -, hwalk⟩ := target_eq_named_iff.mp htarget
  obtain ⟨parent, rfl, hparent⟩ := hd.exists_parent hwalk (by simp [hp])
  exact hd.put .directory hparent (by simp [hp])

theorem IsTree.createParents (hd : d.IsTree) (path : String) : (d.createParents path).1.IsTree :=
  createParents_induction hd fun _ _ _ _ _ _ h hmade => h.createDirectory hmade

/-- A file can be put where a path leads to and there is no directory. -/
theorem IsTree.put_file (hd : d.IsTree) (h : Reaches d path p) (hp : d.entry? p ≠ some .directory)
    (content : ByteArray) : IsTree (d.put p (.file content)) := by
  have hwalk := h.walk
  obtain hnil | ⟨init, name, hparts⟩ := List.eq_nil_or_concat (Path.segments path)
  · exact absurd hnil (Path.segments_ne_nil path)
  rw [hparts, List.concat_eq_append] at hwalk
  obtain ⟨parent, rfl, hparent⟩ := hd.exists_parent hwalk hp
  exact hd.put _ hparent hp

theorem IsTree.writeFile (hd : d.IsTree) (h : d.writeFile path content = .ok d') : d'.IsTree := by
  obtain ⟨p, hreaches, hp, rfl, -⟩ := writeFile_eq_ok h
  exact hd.put_file hreaches hp content

/-- A file can be moved. -/
theorem IsTree.moveFile (hd : d.IsTree) {source : String}
    (hsource : d.find source = .ok (q, .file content)) (h : d.moveFile source path = .ok d') :
    d'.IsTree := by
  obtain ⟨p, old, entry, htarget, hp, hold, rfl⟩ := moveFile_eq_ok h
  obtain ⟨rfl, rfl⟩ := Prod.mk.inj (Except.ok.inj (hold.symm.trans hsource))
  have hfile : d.entry? old ≠ some .directory := by simp [(find_eq_ok_iff.mp hsource).2]
  have hreaches := (reaches_of_target htarget).mono (within_remove hfile)
  refine (hd.remove hfile).put_file hreaches ?_ content
  rw [entry?_remove (ne_root hfile)]
  split
  · exact nofun
  · exact hp

theorem IsTree.replaceFile (hd : d.IsTree) (path : String) (content : ByteArray) :
    (d.replaceFile path content).1.IsTree := by
  rw [Disk.replaceFile]
  split
  · exact hd
  split
  · exact hd
  next temporary _ written hwritten =>
    have hwrittenTree := hd.writeFile hwritten
    split
    · exact hwrittenTree
    next moved hmoved =>
      obtain ⟨_, _, _, _, hfound⟩ := writeFile_eq_ok hwritten
      exact hwrittenTree.moveFile hfound hmoved

/-- **Writing a file leaves a tree**, also when it fails. -/
theorem IsTree.writeAtomic (hd : d.IsTree) (path : String) (content : ByteArray) :
    (d.writeAtomic path content).1.IsTree := by
  have hparents := hd.createParents path
  rw [Disk.writeAtomic]
  split
  next hreached => rwa [hreached] at hparents
  next hreached =>
    rw [hreached] at hparents
    exact hparents.replaceFile path content

/-- **What is put on a tree for a start leaves a tree.** -/
theorem IsTree.install (hd : d.IsTree) (path : String) (entry : DiskEntry) :
    IsTree (d.install path entry) := by
  cases entry with
  | directory => exact createDirectories_induction hd fun _ _ _ _ h hmade => h.createDirectory hmade
  | file content =>
    have hparents := hd.createParents path
    simp only [Disk.install]
    split
    next hwritten => exact hparents.writeFile hwritten
    next => exact hparents

theorem isTree_blank : blank.IsTree := by
  intro p name h
  cases p with
  | nil => rfl
  | cons first rest =>
    refine absurd ?_ h
    simp [blank, entry?]

end Disk

end Blueprint
