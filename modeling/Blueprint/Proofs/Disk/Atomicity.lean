import Blueprint.Proofs.Disk.Rewriting

/-!
# Writing is atomic

A file is written in steps, each of which may fail: its directories are made, its temporary
file is named, then written, then moved into place. Whatever the disk and the path, there are
two ways for it to end.

| the writing | the file | its temporary file | anywhere else |
|---|---|---|---|
| succeeds (`Blueprint.Disk.Landed`) | has the content | is gone | kept, or a directory made above the path |
| fails (`Blueprint.Disk.Survived`) | is as it was | is as it was, or has the content | kept, or a directory made above the path |

Of the temporary file nothing needs to be known but that it is beside the file
(`Blueprint.Disk.Beside`), which is so even where the writing fails, and for paths that end in a
slash or in a dot.
-/

namespace Blueprint

namespace Disk

variable {d d' d'' : Disk} {p q t : Place} {path : String} {init : List String} {name : String}
  {content : ByteArray}

/-! ### Success -/

/-- **A file has landed**: it has its content and its directories, nothing is left of its
temporary file, and nothing else has changed but for directories made above the path. -/
structure Landed (d : Disk) (path : String) (content : ByteArray) (d' : Disk) : Prop where
  workingDirectory : d'.workingDirectory = d.workingDirectory
  found : d'.find path = .ok (d.place path, .file content)
  temporary : ∃ t, Beside d path t ∧ d'.entry? t = none
  directories : ∀ a, Path.Above a path → d'.entry? (d.place a) = some .directory
  kept : ∀ q, q ≠ d.place path → ¬Beside d path q → KeptOrAbove d d' path q

/-- **A file that is written without a fault has landed.** -/
theorem landed_of_writeAtomic (h : d.writeAtomic path content = (d', none)) :
    Landed d path content d' := by
  have hwrote := wrote_of_writeAtomic h
  have hwd := hwrote.within.workingDirectory
  obtain ⟨reached, hreached, hreplaced⟩ := writeAtomic_eq_ok h
  have hparents := keptOrAbove_createParents d path
  have hreachedWd := (grows_createParents d path).workingDirectory
  rw [hreached] at hparents hreachedWd
  refine ⟨hwd, hwrote.found, ?_, fun a ha => ?_, fun q hq ht => ?_⟩
  · obtain ⟨t, -, ht, -⟩ := replaceFile_eq_ok hreplaced
    rw [temporaryPlace?_congr hreachedWd] at ht
    have hbeside := temporaryPlace?_eq_some_iff.mp ht
    exact ⟨t, hbeside, hwrote.gone t hbeside.ne_place ht⟩
  · have hreaches := (find_eq_ok_iff.mp hwrote.found).1
    rw [← place_congr hwd]
    exact (Enters.of_above ha hreaches.walk).entry?_place
  · refine (hparents q).of_eq ?_
    rw [entry?_of_replaceFile hreplaced, place_congr hreachedWd,
      temporaryPlace?_congr hreachedWd, if_neg hq, if_neg (mt temporaryPlace?_eq_some_iff.mp ht)]

/-! ### Failure -/

/-- **What was there has survived**: every file but the temporary one is as it was, that of the
path included, and so is everything else, but for directories made above the path. The temporary
file may have been written, unless there is a directory in its place. -/
structure Survived (d : Disk) (path : String) (content : ByteArray) (d' : Disk) : Prop where
  workingDirectory : d'.workingDirectory = d.workingDirectory
  found : ∀ p entry, d.find path = .ok (p, entry) → d'.find path = .ok (p, entry)
  old : ∀ entry, d.entry? (d.place path) = some entry → d'.entry? (d.place path) = some entry
  files : ∀ q before, ¬Beside d path q → d.entry? q = some (.file before) →
    d'.entry? q = some (.file before)
  kept : ∀ q, ¬Beside d path q → KeptOrAbove d d' path q
  temporary : ∀ t, Beside d path t → KeptOrAbove d d' path t ∨
    d.entry? t ≠ some .directory ∧ d'.entry? t = some (.file content)

/-- **A file that cannot be replaced** is left as it was, and so is everything else but its
temporary file. -/
theorem replaceFile_eq_error {fault : DiskFault}
    (h : d.replaceFile path content = (d', some fault)) :
    d' = d ∨ ∃ t, d.temporaryPlace? path = some t ∧ d.entry? t ≠ some .directory ∧
      d' = d.put t (.file content) := by
  rw [replaceFile] at h
  cases htemporary : temporaryPath? path with
  | none =>
    rw [htemporary] at h
    exact .inl (congrArg Prod.fst h).symm
  | some temporary =>
    simp only [htemporary] at h
    split at h
    · exact .inl (congrArg Prod.fst h).symm
    next written hwritten =>
      obtain ⟨t, ht, htdir, rfl, -⟩ := writeFile_eq_ok hwritten
      split at h
      · refine .inr ⟨t, ?_, htdir, (congrArg Prod.fst h).symm⟩
        rw [temporaryPlace?, htemporary, Option.map_some, ht.place_eq]
      · cases h

/-- All of this comes from what is kept, and where. -/
theorem survived_of_kept (hd : Within d d') (hkept : ∀ q, ¬Beside d path q → KeptOrAbove d d' path q)
    (htemporary : ∀ t, Beside d path t → KeptOrAbove d d' path t ∨
      d.entry? t ≠ some .directory ∧ d'.entry? t = some (.file content)) :
    Survived d path content d' := by
  have hold : ∀ entry, d.entry? (d.place path) = some entry →
      d'.entry? (d.place path) = some entry := fun entry =>
    (hkept _ fun hbeside => hbeside.ne_place rfl).of_some
  refine ⟨hd.workingDirectory, fun p entry hfind => ?_, hold, fun q before hq => (hkept q hq).of_some,
    hkept, htemporary⟩
  obtain ⟨hreaches, hp⟩ := find_eq_ok_iff.mp hfind
  obtain rfl := hreaches.place_eq
  exact find_eq_ok_iff.mpr ⟨hreaches.mono hd, hold entry hp⟩

/-- What was there survives where the temporary file is written after the directories were
made. -/
theorem survived_of_put (hd : Within d d') (habove : ∀ q, KeptOrAbove d d' path q)
    (ht : Beside d path t) (htdir : d'.entry? t ≠ some .directory) :
    Survived d path content (d'.put t (.file content)) := by
  have hput := entry?_put (d := d') (ne_root htdir) (.file content)
  refine survived_of_kept (hd.trans (within_put htdir content)) (fun q hq => ?_) fun t' ht' => .inr ?_
  · refine (habove q).of_eq ?_
    rw [hput, if_neg]
    rintro rfl
    exact hq ht
  · obtain rfl := ht.unique ht'
    refine ⟨fun hdirectory => htdir (hd.directories t hdirectory), ?_⟩
    rw [hput, if_pos rfl]

/-- **What was there survives a fault**, whichever step it comes from. -/
theorem survived_of_writeAtomic {fault : DiskFault}
    (h : d.writeAtomic path content = (d', some fault)) : Survived d path content d' := by
  have hgrows := grows_createParents d path
  have habove := keptOrAbove_createParents d path
  rw [writeAtomic] at h
  split at h
  next reached _ hreached =>
    rw [hreached] at hgrows habove
    obtain ⟨rfl, -⟩ := Prod.mk.inj h
    exact survived_of_kept hgrows.within (fun q _ => habove q) fun t _ => .inl (habove t)
  next reached hreached =>
    rw [hreached] at hgrows habove
    rcases replaceFile_eq_error h with rfl | ⟨t, ht, htdir, rfl⟩
    · exact survived_of_kept hgrows.within (fun q _ => habove q) fun t _ => .inl (habove t)
    · rw [temporaryPlace?_congr hgrows.workingDirectory] at ht
      exact survived_of_put hgrows.within habove (temporaryPlace?_eq_some_iff.mp ht) htdir

/-! ### Either way -/

/-- **Writing a file is atomic**, on every disk and for every path: the file lands, or what was
there survives. -/
theorem writeAtomic_atomic (d : Disk) (path : String) (content : ByteArray) :
    match d.writeAtomic path content with
    | (d', none) => Landed d path content d'
    | (d', some _) => Survived d path content d' := by
  split
  next d' hwrite => exact landed_of_writeAtomic hwrite
  next d' _ hwrite => exact survived_of_writeAtomic hwrite

end Disk

end Blueprint
