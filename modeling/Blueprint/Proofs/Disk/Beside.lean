import Blueprint.Proofs.Disk.Ancestors

/-!
# Where the temporary file of a file goes

The temporary file of a path has the last name of the path with `.tmp` behind it, and goes where
the path goes but for that name (`Blueprint.Disk.temporaryPlace?_eq_some_iff`). This takes some
looking, since the two are put together differently: the path may have slashes and dots behind
its last name, and the path of the temporary file is the parent with the new name behind it.

So the temporary file is never at the place of the file itself
(`Blueprint.Disk.Beside.ne_place`).
-/

namespace Blueprint

namespace Path

variable {path name : String}

/-- **A path with a last name** is one that ends in this name, and silent parts. -/
theorem exists_endsIn_of_fileName (h : fileName? path = some name) :
    ∃ core init more, EndsIn core init name ∧ core ≠ "" ∧ parent? core = parent? path ∧
      segments core ++ more = segments path ∧ ∀ part ∈ more, isSilent part = true := by
  simp only [fileName?] at h
  split at h
  · cases h
  next htop =>
  split at h
  next last hlast =>
    split at h
    · cases h
    next hnamed =>
    obtain rfl := Option.some.inj h
    rw [Bool.or_eq_true, decide_eq_true_eq, not_or, Bool.not_eq_true] at hnamed
    obtain ⟨init, hinit⟩ := List.getLast?_eq_some_iff.mp hlast
    obtain ⟨more, hmore, hsilent⟩ := exists_silent (segments path)
    have hparts : dropSilent (segments path) ≠ [] :=
      mt dropSilent_eq_nil_iff.mp (segments_ne_nil path)
    have hsegments := segments_ofSegments_of_isPrefix hparts (dropSilent_isPrefix _)
    refine ⟨ofSegments (dropSilent (segments path)), init, more,
      ⟨hsegments.trans hinit, hnamed.2, hnamed.1⟩, ?_, ?_, ?_, hsilent⟩
    · intro hempty
      rw [hempty] at hsegments
      exact htop (by rw [← hsegments]; decide)
    · simp only [parent?, hsegments, dropSilent_idempotent]
    · rwa [hsegments]
  next => cases h

end Path

namespace Disk

variable {d : Disk} {q t : Place} {path : String} {init : List String} {name : String}

/-! ### Temporary names -/

/-- A name with something behind it is longer than dots are. -/
theorem length_temporaryName (name : String) : 4 ≤ (temporaryName name).toList.length := by
  simp [temporaryName]

theorem isSilent_temporaryName (name : String) : Path.isSilent (temporaryName name) = false := by
  have hlong := length_temporaryName name
  rw [Path.isSilent, Bool.or_eq_false_iff, decide_eq_false_iff_not, decide_eq_false_iff_not]
  constructor <;> intro heq <;> simp [heq] at hlong

theorem temporaryName_ne_dots (name : String) : temporaryName name ≠ ".." := by
  have hlong := length_temporaryName name
  intro heq
  simp [heq] at hlong

theorem slash_notMem_temporaryName (h : name ∈ Path.segments path) :
    '/' ∉ (temporaryName name).toList := by
  simpa [temporaryName] using Path.slash_notMem h

/-! ### Beside a path -/

/-- A path that ends in a name has its place in the one to which the parts before the name lead. -/
theorem place_of_endsIn (h : Path.EndsIn path init name) :
    d.place path = (Path.dropSilent init).foldl follow (d.origin path) ++ [name] := by
  obtain ⟨more, hmore, hsilent⟩ := Path.exists_silent init
  rw [place, h.parts, List.foldl_append, List.foldl_cons, List.foldl_nil, follow, h.named,
    if_neg Bool.false_ne_true, if_neg h.notDots]
  conv_lhs => rw [← hmore, List.foldl_append, foldl_follow_of_silent hsilent]

/-- **A place beside that of a path**, in the same directory, with `.tmp` behind the last name of
the path. -/
def Beside (d : Disk) (path : String) (t : Place) : Prop :=
  ∃ name parent, Path.fileName? path = some name ∧ d.place path = parent ++ [name] ∧
    t = parent ++ [name ++ ".tmp"]

/-- The place of the temporary file, by the parts of the path that end in the last name. -/
theorem exists_beside (d : Disk) (h : Path.fileName? path = some name) : ∃ parent,
    d.place path = parent ++ [name] ∧
      d.temporaryPlace? path = some (parent ++ [temporaryName name]) := by
  obtain ⟨core, init, more, hends, hcore, hparent, hmore, hsilent⟩ :=
    Path.exists_endsIn_of_fileName h
  have hname : name ∈ Path.segments core := hends.parts ▸ List.mem_append_right _ List.mem_cons_self
  have hslash := slash_notMem_temporaryName hname
  have hsegments := hends.segments_sibling hslash
  have hplace : d.place path = d.place core := by
    rw [place, place, ← hmore, List.foldl_append, foldl_follow_of_silent hsilent, origin, origin,
      Path.isAbsolute_of_isPrefix hcore ⟨more, hmore⟩]
  have htemporary : temporaryPath? path = some (Path.sibling core (temporaryName name)) := by
    simp only [temporaryPath?, h, Option.map_some, Path.sibling, hparent]
  refine ⟨(Path.dropSilent init).foldl follow (d.origin core), ?_, ?_⟩
  · rw [hplace, place_of_endsIn hends]
  · rw [temporaryPlace?, htemporary, Option.map_some, place, hsegments, List.foldl_append,
      List.foldl_cons, List.foldl_nil, origin, hends.isAbsolute_sibling hslash, follow,
      isSilent_temporaryName, if_neg Bool.false_ne_true, if_neg (temporaryName_ne_dots name)]
    rfl

/-- **The temporary file of a path goes beside it**, whatever comes after the last name. -/
theorem temporaryPlace?_eq_some_iff : d.temporaryPlace? path = some t ↔ Beside d path t := by
  constructor
  · intro h
    rcases hname : Path.fileName? path with _ | name
    · simp [temporaryPlace?, temporaryPath?, hname] at h
    · obtain ⟨parent, hplace, htemporary⟩ := exists_beside d hname
      exact ⟨name, parent, hname, hplace, Option.some.inj (h.symm.trans htemporary)⟩
  · rintro ⟨name, parent, hname, hplace, rfl⟩
    obtain ⟨parent', hplace', htemporary⟩ := exists_beside d hname
    obtain rfl : parent = parent' := List.append_inj_left' (hplace.symm.trans hplace') rfl
    exact htemporary

/-- There is one place beside that of a path. -/
theorem Beside.unique (h : Beside d path t) (h' : Beside d path q) : t = q :=
  Option.some.inj ((temporaryPlace?_eq_some_iff.mpr h).symm.trans
    (temporaryPlace?_eq_some_iff.mpr h'))

/-- What is beside a path is not at its place. -/
theorem Beside.ne_place (h : Beside d path t) : t ≠ d.place path := by
  obtain ⟨name, parent, -, hplace, rfl⟩ := h
  rw [hplace]
  intro heq
  simp [← String.toList_inj] at heq

end Disk

end Blueprint
