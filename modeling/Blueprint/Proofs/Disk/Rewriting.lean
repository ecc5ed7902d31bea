import Blueprint.Proofs.Disk.Beside

/-!
# Writing a file that is there

To write a file where there is none, directories may have to be made, and much can go wrong. To
write it again is a small thing: its directories are there, nothing is in the way of its
temporary file, and all that changes is its content (`Blueprint.Disk.Settled.writeAtomic`). A
file is settled in this sense once it was written (`Blueprint.Disk.settled_of_writeAtomic`).

While other files are written a settled file stays settled as long as no directory is made
where its temporary file goes. Directories are made above a file only
(`Blueprint.Disk.entry?_of_writeAtomic`), if its path does not lead up.
-/

namespace Blueprint

namespace Disk

variable {d d' : Disk} {p q : Place} {path : String} {init : List String} {name : String}
  {content : ByteArray}

/-! ### Where directories are made -/

/-- The first parts of a path that does not lead up lead to a place above its own. -/
theorem foldl_follow_isPrefix_place {parts : List String} (hdots : ".." ∉ Path.segments path)
    (h : parts <+: Path.segments path) :
    parts.foldl follow (d.origin path) <+: d.place path := by
  obtain ⟨more, hmore⟩ := h
  rw [place, ← hmore, List.foldl_append]
  refine prefix_foldl_follow fun hmem => hdots ?_
  rw [← hmore]
  exact List.mem_append_right _ hmem

/-- **Directories are only made above a file**, if its path does not lead up. -/
theorem entry?_of_createParents (hdots : ".." ∉ Path.segments path) (hq : ¬q <+: d.place path) :
    entry? (d.createParents path).1 q = d.entry? q := by
  refine (createParents_induction
    (motive := fun e => e.workingDirectory = d.workingDirectory ∧ e.entry? q = d.entry? q)
    ⟨rfl, rfl⟩ ?_).2
  rintro parent hparent a ha e e' ⟨hwd, hentry⟩ hmade
  obtain ⟨made, slash, htarget, hnone, rfl⟩ := createDirectory_eq_ok hmade
  obtain ⟨-, init, name, hsplit, -, -, hwalk⟩ := target_eq_named_iff.mp htarget
  obtain ⟨hempty, hprefix⟩ := Path.segments_of_mem_ancestorsFrom ha
  have habove := Path.isPrefix_of_parent hparent ha hprefix
  have horigin : e.origin a = d.origin path := by
    rw [origin, origin, Path.isAbsolute_of_isPrefix hempty habove, hwd]
  have hparts : init ++ [name] <+: Path.segments a := by
    have hkept : (splitEnd a).1 <+: Path.segments a := List.rdropWhile_prefix _ _
    rwa [hsplit] at hkept
  have hmadeAbove : made <+: d.place path := by
    rw [← foldl_follow_of_walk hwalk, horigin]
    exact foldl_follow_isPrefix_place hdots (hparts.trans habove)
  refine ⟨hwd, ?_⟩
  rw [entry?_put (ne_root (d := e) (by simp [hnone])), if_neg, hentry]
  rintro rfl
  exact hq hmadeAbove

/-- **Writing a file changes nothing** but what is above it, itself and its temporary file. -/
theorem entry?_of_writeAtomic (h : d.writeAtomic path content = (d', none))
    (hdots : ".." ∉ Path.segments path) (hq : ¬q <+: d.place path)
    (ht : d.temporaryPlace? path ≠ some q) : d'.entry? q = d.entry? q := by
  obtain ⟨reached, hreached, hreplaced⟩ := writeAtomic_eq_ok h
  have hwd := (grows_createParents d path).workingDirectory
  have hparents := entry?_of_createParents hdots hq
  rw [hreached] at hwd hparents
  rw [entry?_of_replaceFile hreplaced, if_neg, if_neg, hparents]
  · rwa [temporaryPlace?_congr hwd]
  · rintro rfl
    exact hq (place_congr hwd path ▸ List.prefix_rfl)

/-! ### Directories that are there -/

/-- What is there is named by its path, or by dots at its end. -/
theorem target_of_reaches (h : Reaches d path p) :
    d.target path = .ok .dots ∨ ∃ slash, d.target path = .ok (.named p slash) := by
  rcases hsplit : splitEnd path with ⟨parts, slash⟩
  have hwalk : d.walk (d.origin path) parts = .ok p := by
    obtain ⟨more, hmore, hsilent⟩ := exists_silent_of_splitEnd hsplit
    refine walk_of_silent hsilent ?_
    rw [hmore]
    exact h.walk
  obtain rfl | ⟨init, name, rfl⟩ := List.eq_nil_or_concat parts
  · left
    simp [target, h.check, hsplit, walk, bind, Except.bind, pure, Except.pure]
  rw [List.concat_eq_append] at hsplit hwalk
  by_cases hdots : name = "." ∨ name = ".."
  · left
    obtain ⟨parent, hparent, hstep⟩ := walk_concat_eq_ok_iff.mp hwalk
    simp [target, h.check, hsplit, hparent, hstep, hdots, bind, Except.bind]
  · rw [not_or] at hdots
    exact .inr ⟨slash, target_eq_named_iff.mpr
      ⟨h.check, init, name, hsplit, hdots.1, hdots.2, hwalk⟩⟩

/-- A directory that is there cannot be made. -/
theorem createDirectory_of_directory (h : d.find path = .ok (p, .directory)) :
    d.createDirectory path = .error .alreadyExists := by
  obtain ⟨hreaches, hp⟩ := find_eq_ok_iff.mp h
  rw [createDirectory]
  obtain htarget | ⟨slash, htarget⟩ := target_of_reaches hreaches
  · rw [htarget]
    rfl
  · simp [htarget, hp, bind, Except.bind]

/-- **A directory that is there is made by doing nothing.** -/
theorem createDirectories_of_directory (h : d.find path = .ok (p, .directory)) :
    d.createDirectories path = (d, none) := by
  have hmade := createDirectory_of_directory h
  have hthere : d.isDirectory path = true := by simp [isDirectory, h]
  have hclimb : d.climb (Path.ancestors path) [] = .ok (d, []) := by
    rw [Path.ancestors]
    cases (Path.segments path).length with
    | zero => rfl
    | succ fuel =>
      rw [Path.ancestorsFrom]
      split
      · rfl
      · simp [climb, hmade, hthere]
  rw [createDirectories, hclimb]
  rfl

/-! ### Beside a file -/

/-- A path that ends in a name has no slash at its end. -/
theorem splitEnd_eq (h : Path.EndsIn path init name) : splitEnd path = (init ++ [name], false) := by
  have hname : name ≠ "" := by
    rintro rfl
    exact nomatch h.named
  have hkept : (Path.segments path).rdropWhile (fun part => part = "") = init ++ [name] := by
    rw [h.parts]
    exact List.rdropWhile_concat_neg _ _ _ (by simpa using hname)
  have hsplit : splitEnd path = ((Path.segments path).rdropWhile (fun part => part = ""),
      decide (((Path.segments path).rdropWhile fun part => part = "").length ≠
        (Path.segments path).length)) := rfl
  rw [hsplit, hkept, h.parts]
  simp

/-- What can be made as a file has a path that ends in a name. -/
theorem endsIn_of_target (h : d.target path = .ok (.named p false)) :
    ∃ init name, Path.EndsIn path init name := by
  obtain ⟨-, init, name, hsplit, hdot, hdots, -⟩ := target_eq_named_iff.mp h
  -- Where the slashes at the end are gone, the last part is not empty.
  have hkept : (Path.segments path).rdropWhile (fun part => part = "") = init ++ [name] :=
    congrArg Prod.fst hsplit
  have hlast := List.rdropWhile_idempotent (fun part => part = "") (Path.segments path)
  rw [hkept, List.rdropWhile_eq_self_iff] at hlast
  have hname : name ≠ "" := by simpa using hlast
  exact ⟨init, name, (eq_segments_of_splitEnd hsplit).symm, by simp [Path.isSilent, hname, hdot],
    hdots⟩

/-- **A path that ends in a name reaches a file** as a path that makes one does. -/
theorem Reaches.target (h : Reaches d path p) (hends : Path.EndsIn path init name) :
    d.target path = .ok (.named p false) := by
  have hdot : name ≠ "." := by
    rintro rfl
    exact nomatch hends.named
  refine target_eq_named_iff.mpr ⟨h.check, init, name, splitEnd_eq hends, hdot, hends.notDots, ?_⟩
  rw [← hends.parts]
  exact h.walk

/-- What a path that ends in a name reaches has this name in a directory, to which the parts of
the parent lead. -/
theorem Reaches.exists_directory (h : Reaches d path p) (hends : Path.EndsIn path init name) :
    ∃ parent, p = parent ++ [name] ∧ d.entry? parent = some .directory ∧
      d.walk (d.origin path) (Path.dropSilent init) = .ok parent := by
  have hwalk := h.walk
  rw [hends.parts] at hwalk
  obtain ⟨parent, hparent, hstep⟩ := walk_concat_eq_ok_iff.mp hwalk
  obtain ⟨hdirectory, rfl⟩ := step_eq_ok_iff.mp hstep
  refine ⟨parent, ?_, hdirectory, ?_⟩
  · rw [follow, hends.named, if_neg Bool.false_ne_true, if_neg hends.notDots]
  · obtain ⟨more, hmore, hsilent⟩ := Path.exists_silent init
    refine walk_of_silent hsilent ?_
    rwa [hmore]

/-- **A sibling of a path reaches the place beside it.** -/
theorem Reaches.sibling (h : Reaches d path p) (hends : Path.EndsIn path init name) {other : String}
    (hnamed : Path.isSilent other = false) (hdots : other ≠ "..") (hslash : '/' ∉ other.toList)
    (hmark : '\x00' ∉ other.toList) : ∃ parent, p = parent ++ [name] ∧
      Path.EndsIn (Path.sibling path other) (Path.dropSilent init) other ∧
      Reaches d (Path.sibling path other) (parent ++ [other]) := by
  obtain ⟨parent, rfl, hdirectory, hwalk⟩ := h.exists_directory hends
  have hsegments := hends.segments_sibling hslash
  refine ⟨parent, rfl, ⟨hsegments, hnamed, hdots⟩, ?_, ?_⟩
  · refine checkPath_of_parts h.check ?_ fun part hpart => ?_
    · intro hempty
      have hlast : (Path.segments "").getLast? = some other := by
        rw [← hempty, hsegments, List.getLast?_concat]
      obtain rfl : "" = other := Option.some.inj hlast
      exact nomatch hnamed
    · rw [hsegments, List.mem_append, List.mem_singleton] at hpart
      obtain hpart | rfl := hpart
      · left
        rw [hends.parts]
        exact List.mem_append_left _ ((Path.dropSilent_isPrefix init).subset hpart)
      · exact .inr hmark
  · rw [hsegments, origin, hends.isAbsolute_sibling hslash]
    refine walk_concat_eq_ok_iff.mpr ⟨parent, hwalk, step_eq_ok_iff.mpr ⟨hdirectory, ?_⟩⟩
    rw [follow, hnamed, if_neg Bool.false_ne_true, if_neg hdots]

/-- **The directories of a path that reaches something are there.** -/
theorem Reaches.createParents_eq (h : Reaches d path p) : d.createParents path = (d, none) := by
  rw [createParents]
  split
  · rfl
  next parent hparent =>
    split
    · rfl
    next hempty =>
      exact createDirectories_of_directory ((h.parent hparent).resolve_left hempty)

/-- **The temporary file of a file is beside it.** -/
theorem Reaches.temporary (h : Reaches d path p) (hends : Path.EndsIn path init name) :
    ∃ temporary init' name' t, temporaryPath? path = some temporary ∧
      Path.EndsIn temporary init' name' ∧ Reaches d temporary t := by
  have hname : name ∈ Path.segments path := hends.parts ▸ List.mem_append_right _ List.mem_cons_self
  have hslash : '/' ∉ (temporaryName name).toList := slash_notMem_temporaryName hname
  have hmark : '\x00' ∉ (temporaryName name).toList := by
    have hclean : '\x00' ∉ name.toList := fun hmark =>
      (checkPath_eq_ok_iff.mp h.check).1 ((Path.mem_toList_iff (by decide)).mpr ⟨name, hname, hmark⟩)
    simpa [temporaryName] using hclean
  obtain ⟨parent, -, hends', hreaches⟩ := h.sibling hends (isSilent_temporaryName name)
    (temporaryName_ne_dots name) hslash hmark
  refine ⟨_, _, _, _, ?_, hends', hreaches⟩
  rw [temporaryPath?, hends.fileName?_eq]
  rfl

/-! ### Settled files -/

/-- A file can be put where a path that ends in a name leads, unless there is a directory. -/
theorem writeFile_of_reaches (h : Reaches d path p) (hends : Path.EndsIn path init name)
    (hp : d.entry? p ≠ some .directory) (content : ByteArray) :
    d.writeFile path content = .ok (d.put p (.file content)) := by
  have htarget : d.fileTarget path = .ok p := by
    refine bind_eq_ok_iff.mpr ⟨_, h.target hends, ?_⟩
    simp
  rw [writeFile, htarget]
  rfl

/-- A file can be moved where a path that ends in a name leads, unless there is a directory. -/
theorem moveFile_of_reaches (h : Reaches d path p) (hends : Path.EndsIn path init name)
    (hp : d.entry? p ≠ some .directory) {source : String} {old : Place} {entry : DiskEntry}
    (hsource : d.find source = .ok (old, entry)) :
    d.moveFile source path = .ok ((d.remove old).put p entry) := by
  refine bind_eq_ok_iff.mpr ⟨_, h.target hends, bind_eq_ok_iff.mpr ⟨_, hsource, ?_⟩⟩
  simp

/-- **A file that is settled**: it is there, and nothing is at the place of its temporary
file. -/
structure Settled (d : Disk) (path : String) : Prop where
  file : ∃ content, d.find path = .ok (d.place path, .file content)
  ends : ∃ init name, Path.EndsIn path init name
  clear : ∀ t, d.temporaryPlace? path = some t → d.entry? t = none

/-- **A settled file can be written again**, and its content is all that changes. -/
theorem Settled.writeAtomic (h : d.Settled path) (content : ByteArray) :
    ∃ d', d.writeAtomic path content = (d', none) ∧
      d'.workingDirectory = d.workingDirectory ∧
      ∀ q, d'.entry? q = if q = d.place path then some (.file content) else d.entry? q := by
  obtain ⟨before, hfind⟩ := h.file
  obtain ⟨init, name, hends⟩ := h.ends
  obtain ⟨hreaches, hfile⟩ := find_eq_ok_iff.mp hfind
  obtain ⟨temporary, init', name', t, htemporary, hends', hreaches'⟩ := hreaches.temporary hends
  have hclear : d.entry? t = none := by
    refine h.clear t ?_
    rw [temporaryPlace?, htemporary, Option.map_some, hreaches'.place_eq]
  have hnone : d.entry? t ≠ some .directory := by simp [hclear]
  have hwritten := writeFile_of_reaches hreaches' hends' hnone content
  obtain ⟨_, _, _, -, hfound⟩ := writeFile_eq_ok hwritten
  -- The temporary file is no directory, and so is the file that it is moved to.
  have hp : entry? (d.put t (.file content)) (d.place path) ≠ some .directory := by
    rw [entry?_put (ne_root hnone), hfile]
    split <;> simp
  have hmoved := moveFile_of_reaches (hreaches.mono (within_put hnone content)) hends hp hfound
  obtain ⟨d', hreplaced⟩ : ∃ d', d.replaceFile path content = (d', none) := by
    simp [replaceFile, htemporary, hwritten, hmoved]
  have hwrite : d.writeAtomic path content = (d', none) := by
    simp only [Disk.writeAtomic, hreaches.createParents_eq, hreplaced]
  refine ⟨d', hwrite, (wrote_of_writeAtomic hwrite).within.workingDirectory, fun q => ?_⟩
  rw [entry?_of_replaceFile hreplaced]
  split
  · rfl
  split
  next ht => rw [h.clear q ht]
  next => rfl

/-- **A file that was written is settled.** -/
theorem settled_of_writeAtomic (h : d.writeAtomic path content = (d', none)) : d'.Settled path := by
  have hwrote := wrote_of_writeAtomic h
  have hwd := hwrote.within.workingDirectory
  refine ⟨⟨content, ?_⟩, ?_, fun t htemporary => ?_⟩
  · rw [place_congr hwd]
    exact hwrote.found
  · obtain ⟨reached, -, hreplaced⟩ := writeAtomic_eq_ok h
    obtain ⟨_, _, -, -, -, htarget, -⟩ := replaceFile_eq_ok hreplaced
    exact endsIn_of_target htarget
  · rw [temporaryPlace?_congr hwd] at htemporary
    exact hwrote.gone t (temporaryPlace?_eq_some_iff.mp htemporary).ne_place htemporary

/-- A settled file stays settled where directories stay, it is still a file, and nothing has
come to the place of its temporary file. -/
theorem Settled.mono (h : d.Settled path) (hd : Within d d')
    (hfile : ∃ content, d'.entry? (d.place path) = some (.file content))
    (hclear : ∀ t, d.temporaryPlace? path = some t → d'.entry? t = none) : d'.Settled path := by
  obtain ⟨before, hfind⟩ := h.file
  obtain ⟨content, hcontent⟩ := hfile
  refine ⟨⟨content, ?_⟩, h.ends, fun t ht => ?_⟩
  · rw [place_congr hd.workingDirectory]
    exact find_eq_ok_iff.mpr ⟨(find_eq_ok_iff.mp hfind).1.mono hd, hcontent⟩
  · rw [temporaryPlace?_congr hd.workingDirectory] at ht
    exact hclear t ht

end Disk

end Blueprint
