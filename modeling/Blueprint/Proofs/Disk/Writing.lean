import Blueprint.Proofs.Disk.Places

/-!
# What writing changes

Making directories adds directories where there was nothing, and changes nothing else
(`Blueprint.Disk.Grows`), even when it fails on the way. Writing a file changes two places
more, that of the file and that of its temporary file: after it, the first has the content
and the second has nothing (`Blueprint.Disk.Wrote`, `Blueprint.Disk.wrote_of_writeAtomic`).

The second place is the catch. The temporary file is moved away, whatever was at its place
before, so a file that happens to have the temporary name of another one does not outlive
the writing of that other one.
-/

namespace Blueprint

namespace Disk

variable {d d' d'' : Disk} {p q : Place} {path : String} {content : ByteArray}

/-! ### Making directories -/

/-- What is at a place stays, or there was nothing and now there is a directory. -/
def KeptOrMade (d d' : Disk) (q : Place) : Prop :=
  d'.entry? q = d.entry? q ∨ d.entry? q = none ∧ d'.entry? q = some .directory

theorem KeptOrMade.trans (h : KeptOrMade d d' q) (h' : KeptOrMade d' d'' q) :
    KeptOrMade d d'' q := by
  obtain hkept | ⟨hnone, hmade⟩ := h
  · rw [KeptOrMade, ← hkept]
    exact h'
  · obtain hkept' | ⟨hnone', -⟩ := h'
    · exact .inr ⟨hnone, hkept'.trans hmade⟩
    · exact nomatch hmade.symm.trans hnone'

/-- Something at a place stays. -/
theorem KeptOrMade.of_some {entry : DiskEntry} (h : KeptOrMade d d' q)
    (hq : d.entry? q = some entry) : d'.entry? q = some entry := by
  obtain hkept | ⟨hnone, -⟩ := h
  · exact hkept.trans hq
  · exact nomatch hq.symm.trans hnone

/-- **A disk grows**: directories are made where there was nothing. -/
structure Grows (d d' : Disk) : Prop where
  workingDirectory : d'.workingDirectory = d.workingDirectory
  keptOrMade : ∀ q, KeptOrMade d d' q

theorem Grows.refl (d : Disk) : Grows d d := ⟨rfl, fun _ => .inl rfl⟩

theorem Grows.trans (h : Grows d d') (h' : Grows d' d'') : Grows d d'' :=
  ⟨h'.workingDirectory.trans h.workingDirectory, fun q => (h.keptOrMade q).trans (h'.keptOrMade q)⟩

theorem Grows.within (h : Grows d d') : Within d d' :=
  ⟨h.workingDirectory, fun q hq => (h.keptOrMade q).of_some hq⟩

/-- **A directory is made where there was nothing**, at the place that its path names. -/
theorem createDirectory_eq_ok (h : d.createDirectory path = .ok d') :
    ∃ p slash, d.target path = .ok (.named p slash) ∧ d.entry? p = none ∧
      d' = d.put p .directory := by
  obtain ⟨target, htarget, h⟩ := bind_eq_ok_iff.mp h
  cases target with
  | dots => exact nomatch h
  | named p slash =>
    cases hp : d.entry? p with
    | some entry => simp [hp] at h
    | none => exact ⟨p, slash, htarget, hp, by simpa [hp, eq_comm] using h⟩

theorem grows_of_createDirectory (h : d.createDirectory path = .ok d') : Grows d d' := by
  obtain ⟨p, slash, -, hp, rfl⟩ := createDirectory_eq_ok h
  have hroot : p ≠ [] := ne_root (d := d) (by simp [hp])
  refine ⟨rfl, fun q => ?_⟩
  rw [KeptOrMade, entry?_put hroot]
  by_cases hq : q = p
  · rw [if_pos hq, hq]
    exact .inr ⟨hp, rfl⟩
  · rw [if_neg hq]
    exact .inl rfl

/-- What making a directory keeps is kept where paths are tried from the longest one on, and
only paths that were tried are left to be made. -/
theorem climb_induction {motive : Disk → Prop} {paths missing missing' : List String}
    (start : motive d)
    (make : ∀ a ∈ paths, ∀ {d d'}, motive d → d.createDirectory a = .ok d' → motive d')
    (h : d.climb paths missing = .ok (d', missing')) :
    motive d' ∧ ∀ a ∈ missing', a ∈ paths ∨ a ∈ missing := by
  induction paths generalizing missing with
  | nil =>
    obtain ⟨rfl, rfl⟩ := Prod.mk.inj (Except.ok.inj h)
    exact ⟨start, fun _ => .inr⟩
  | cons path shorter ih =>
    rw [climb] at h
    split at h
    next made hmade =>
      obtain ⟨rfl, rfl⟩ := Prod.mk.inj (Except.ok.inj h)
      exact ⟨make path List.mem_cons_self start hmade, fun _ => .inr⟩
    next =>
      obtain ⟨hend, hleft⟩ := ih (fun a ha => make a (List.mem_cons_of_mem _ ha)) h
      refine ⟨hend, fun a ha => ?_⟩
      obtain hshorter | hmissing := hleft a ha
      · exact .inl (List.mem_cons_of_mem _ hshorter)
      · obtain rfl | hmissing := List.mem_cons.mp hmissing
        · exact .inl List.mem_cons_self
        · exact .inr hmissing
    next =>
      split at h
      · obtain ⟨rfl, rfl⟩ := Prod.mk.inj (Except.ok.inj h)
        exact ⟨start, fun _ => .inr⟩
      · exact nomatch h

/-- What making a directory keeps is kept where paths are made one after another. -/
theorem descend_induction {motive : Disk → Prop} {paths : List String} (start : motive d)
    (make : ∀ a ∈ paths, ∀ {d d'}, motive d → d.createDirectory a = .ok d' → motive d') :
    motive (d.descend paths).1 := by
  induction paths generalizing d with
  | nil => exact start
  | cons path longer ih =>
    have hlonger : ∀ a ∈ longer, ∀ {d d'}, motive d → d.createDirectory a = .ok d' → motive d' :=
      fun a ha => make a (List.mem_cons_of_mem _ ha)
    rw [descend]
    split
    next made hmade => exact ih (make path List.mem_cons_self start hmade) hlonger
    next =>
      split
      · exact ih start hlonger
      · exact start

/-- **What making a directory keeps is kept by making a directory with those it is in**: they
are ancestors of its path. -/
theorem createDirectories_induction {motive : Disk → Prop} (start : motive d)
    (make : ∀ a ∈ Path.ancestors path, ∀ {d d'}, motive d → d.createDirectory a = .ok d' →
      motive d') : motive (d.createDirectories path).1 := by
  rw [createDirectories]
  split
  next => exact start
  next reached missing hclimb =>
    obtain ⟨hreached, hmissing⟩ := climb_induction start make hclimb
    refine descend_induction hreached fun a ha => make a ?_
    exact (hmissing a ha).resolve_right List.not_mem_nil

/-- What making a directory keeps is kept by making the directories of a file. -/
theorem createParents_induction {motive : Disk → Prop} (start : motive d)
    (make : ∀ parent, Path.parent? path = some parent → ∀ a ∈ Path.ancestors parent,
      ∀ {d d'}, motive d → d.createDirectory a = .ok d' → motive d') :
    motive (d.createParents path).1 := by
  rw [createParents]
  split
  next => exact start
  next parent hparent =>
    split
    · exact start
    · exact createDirectories_induction start (make parent hparent)

/-- **Making the directories of a file** makes directories, and does nothing else. -/
theorem grows_createParents (d : Disk) (path : String) : Grows d (d.createParents path).1 :=
  createParents_induction (motive := Grows d) (.refl d) fun _ _ _ _ _ _ h hmade =>
    h.trans (grows_of_createDirectory hmade)

/-! ### Writing a file -/

/-- The place of the temporary file of a file. -/
def temporaryPlace? (d : Disk) (path : String) : Option Place :=
  (temporaryPath? path).map d.place

theorem temporaryPlace?_congr (h : d'.workingDirectory = d.workingDirectory) (path : String) :
    d'.temporaryPlace? path = d.temporaryPlace? path :=
  congrArg (Option.map · _) (funext (place_congr h))

/-- **A file was written.** It is found under its path, and nothing is left at the place of
its temporary file; anywhere else, things are as they were but for new directories. -/
structure Wrote (d : Disk) (path : String) (content : ByteArray) (d' : Disk) : Prop where
  within : Within d d'
  found : d'.find path = .ok (d.place path, .file content)
  gone : ∀ q, q ≠ d.place path → d.temporaryPlace? path = some q → d'.entry? q = none
  kept : ∀ q, q ≠ d.place path → d.temporaryPlace? path ≠ some q →
    KeptOrMade d d' q

/-- Making directories first makes no difference to what was written. -/
theorem Wrote.of_grows (hd : Grows d d') (h : Wrote d' path content d'') :
    Wrote d path content d'' := by
  have hplace := place_congr hd.workingDirectory path
  have htemporary := temporaryPlace?_congr hd.workingDirectory path
  refine ⟨hd.within.trans h.within, hplace ▸ h.found, ?_, ?_⟩
  · intro q hq ht
    exact h.gone q (hplace ▸ hq) (htemporary.trans ht)
  · intro q hq ht
    exact (hd.keptOrMade q).trans (h.kept q (hplace ▸ hq) (htemporary ▸ ht))

/-- A new file goes to the place that its path reaches, where there is no directory. -/
theorem reaches_of_fileTarget (h : d.fileTarget path = .ok p) :
    Reaches d path p ∧ d.entry? p ≠ some .directory := by
  obtain ⟨target, htarget, h⟩ := bind_eq_ok_iff.mp h
  cases target with
  | dots => exact nomatch h
  | named made slash =>
    cases slash with
    | true => exact nomatch h
    | false =>
      by_cases hmade : d.entry? made = some .directory
      · simp [hmade] at h
      · obtain rfl : made = p := by simpa [hmade] using h
        exact ⟨reaches_of_target htarget, hmade⟩

/-- **A file is put at the place that its path reaches**, where there is no directory, and is
found there. -/
theorem writeFile_eq_ok (h : d.writeFile path content = .ok d') :
    ∃ p, Reaches d path p ∧ d.entry? p ≠ some .directory ∧ d' = d.put p (.file content) ∧
      d'.find path = .ok (p, .file content) := by
  obtain ⟨p, htarget, h⟩ := bind_eq_ok_iff.mp h
  obtain rfl := Except.ok.inj h
  obtain ⟨hreaches, hp⟩ := reaches_of_fileTarget htarget
  refine ⟨p, hreaches, hp, rfl, find_eq_ok_iff.mpr ⟨hreaches.mono (within_put hp content), ?_⟩⟩
  rw [entry?_put (ne_root hp), if_pos rfl]

/-- A file is moved to the place that its new path reaches, where there is no directory. -/
theorem moveFile_eq_ok {source : String} (h : d.moveFile source path = .ok d') :
    ∃ p old entry, d.target path = .ok (.named p false) ∧ d.entry? p ≠ some .directory ∧
      d.find source = .ok (old, entry) ∧ d' = (d.remove old).put p entry := by
  obtain ⟨target, htarget, h⟩ := bind_eq_ok_iff.mp h
  obtain ⟨⟨old, entry⟩, hsource, h⟩ := bind_eq_ok_iff.mp h
  cases target with
  | dots => exact nomatch h
  | named p slash =>
    cases slash with
    | true => exact nomatch h
    | false =>
      by_cases hp : d.entry? p = some .directory
      · simp [hp] at h
      · obtain rfl : (d.remove old).put p entry = d' := by simpa [hp] using h
        exact ⟨p, old, entry, htarget, hp, hsource, rfl⟩

/-- **A file moved into place**, when it was just written elsewhere: something at two places
changes, and the first of them may be the second. -/
theorem entry?_moved {t : Place} (ht : t ≠ []) (hp : p ≠ []) (q : Place) :
    entry? (((d.put t (.file content)).remove t).put p (.file content)) q =
      if q = p then some (.file content) else if q = t then none else d.entry? q := by
  rw [entry?_put hp, entry?_remove ht, entry?_put ht]
  by_cases hq : q = t <;> simp [hq]

/-- **A file replaced.** The temporary file is written where its path leads, and moved to
where the path of the file leads; no directory goes away. -/
theorem replaceFile_eq_ok (h : d.replaceFile path content = (d', none)) :
    ∃ t p, d.temporaryPlace? path = some t ∧ d.entry? t ≠ some .directory ∧ p ≠ [] ∧
      target (d.put t (.file content)) path = .ok (.named p false) ∧
      Within (d.put t (.file content)) d' ∧
      d' = ((d.put t (.file content)).remove t).put p (.file content) := by
  rw [replaceFile] at h
  cases htemporary : temporaryPath? path with
  | none => exact nomatch (htemporary ▸ h)
  | some temporary =>
    simp only [htemporary] at h
    split at h
    · exact nomatch h
    rename_i written hwritten
    split at h
    · exact nomatch h
    rename_i moved hmoved
    obtain ⟨rfl, -⟩ := Prod.mk.inj h
    obtain ⟨t, ht, htdir, rfl, hfound⟩ := writeFile_eq_ok hwritten
    obtain ⟨p, old, entry, hp, hpdir, hold, rfl⟩ := moveFile_eq_ok hmoved
    -- What is moved is what was just written.
    obtain ⟨rfl, rfl⟩ := Prod.mk.inj (Except.ok.inj (hold.symm.trans hfound))
    have htroot := ne_root htdir
    have htplace : d.temporaryPlace? path = some old := by
      rw [temporaryPlace?, htemporary, Option.map_some, ht.place_eq]
    refine ⟨old, p, htplace, htdir, ne_root hpdir, hp, ?_, rfl⟩
    refine (within_remove ?_).trans (within_put ?_ content)
    · simp [entry?_put htroot]
    · rw [entry?_remove htroot]
      split
      · exact nofun
      · exact hpdir

/-- **Replacing a file changes two places**, that of the file and that of its temporary file. -/
theorem entry?_of_replaceFile (h : d.replaceFile path content = (d', none)) (q : Place) :
    d'.entry? q = if q = d.place path then some (.file content)
      else if d.temporaryPlace? path = some q then none else d.entry? q := by
  obtain ⟨t, p, ht, htdir, hproot, hp, -, rfl⟩ := replaceFile_eq_ok h
  obtain rfl : d.place path = p := (reaches_of_target hp).place_eq
  rw [entry?_moved (ne_root htdir) hproot]
  simp only [ht, Option.some.injEq, @eq_comm _ q t]

theorem wrote_of_replaceFile (h : d.replaceFile path content = (d', none)) :
    Wrote d path content d' := by
  have hentry := entry?_of_replaceFile h
  obtain ⟨t, p, -, htdir, -, hp, hwithin, -⟩ := replaceFile_eq_ok h
  have hreaches := reaches_of_target hp
  obtain rfl : d.place path = p := hreaches.place_eq
  refine ⟨(within_put htdir content).trans hwithin,
    find_eq_ok_iff.mpr ⟨hreaches.mono hwithin, by rw [hentry, if_pos rfl]⟩, ?_, ?_⟩
  · intro q hq hqt
    rw [hentry, if_neg hq, if_pos hqt]
  · intro q hq hqt
    exact .inl (by rw [hentry, if_neg hq, if_neg hqt])

/-- A file is written when its directories are made and it is replaced. -/
theorem writeAtomic_eq_ok (h : d.writeAtomic path content = (d', none)) :
    ∃ reached, d.createParents path = (reached, none) ∧
      reached.replaceFile path content = (d', none) := by
  rw [writeAtomic] at h
  split at h
  · exact nomatch h
  next reached hreached => exact ⟨reached, hreached, h⟩

/-- **What writing a file comes to** when it succeeds. -/
theorem wrote_of_writeAtomic (h : d.writeAtomic path content = (d', none)) :
    Wrote d path content d' := by
  obtain ⟨reached, hreached, hreplaced⟩ := writeAtomic_eq_ok h
  have hgrows := grows_createParents d path
  rw [hreached] at hgrows
  exact (wrote_of_replaceFile hreplaced).of_grows hgrows

end Disk

end Blueprint
