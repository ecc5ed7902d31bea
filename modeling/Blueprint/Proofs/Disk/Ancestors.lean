import Blueprint.Proofs.Disk.Paths
import Blueprint.Proofs.Disk.Writing

/-!
# What is above a path

Above a path are its parent, the parent of that, and so on (`Blueprint.Path.Above`). It is a
matter of texts, and yet it is what making the directories of a file is about, in both
directions. Only what is above a file is made, on the way to success as on the way to a fault
(`Blueprint.Disk.keptOrAbove_createParents`). And where a path can be followed, everything above
it is a directory (`Blueprint.Disk.Enters.of_above`), as each of its parts but the last was
followed from one.

The parent of a path leaves out the silent parts that the last name has around it, so most of
the work is to see that they do not matter.
-/

namespace Blueprint

namespace Path

variable {path a : String} {parts : List String}

/-- **A path above another one**: its parent, or what is above its parent. -/
inductive Above (a : String) : String → Prop
  | parent {path : String} (h : parent? path = some a) : Above a path
  | beyond {path parent : String} (h : parent? path = some parent) (habove : Above a parent) :
      Above a path

theorem eq_or_above_of_mem {fuel : Nat} (h : a ∈ ancestorsFrom fuel path) :
    a = path ∨ Above a path := by
  induction fuel generalizing path with
  | zero => cases h
  | succ fuel ih =>
    rw [ancestorsFrom] at h
    split at h
    · cases h
    next parent hparent =>
      rcases List.mem_cons.mp h with rfl | h
      · exact .inl rfl
      · rcases ih h with rfl | habove
        · exact .inr (.parent hparent)
        · exact .inr (.beyond hparent habove)

/-- The ancestors of the parent are above the path. -/
theorem above_of_mem_ancestors {parent : String} (hparent : parent? path = some parent)
    (h : a ∈ ancestors parent) : Above a path := by
  rcases eq_or_above_of_mem h with rfl | habove
  · exact .parent hparent
  · exact .beyond hparent habove

theorem dropSilent_eq_nil_iff : dropSilent parts = [] ↔ parts = [] := by
  cases parts <;> simp [dropSilent]

/-- Parts without silent ones at their end stay as they are when these are left out again. -/
theorem dropSilent_idempotent (parts : List String) :
    dropSilent (dropSilent parts) = dropSilent parts := by
  cases parts with
  | nil => rfl
  | cons first rest =>
    exact congrArg (first :: ·) (List.rdropWhile_idempotent isSilent rest)

end Path

namespace Disk

variable {d d' : Disk} {p q : Place} {path a : String}

/-! ### Silent parts -/

/-- Silent parts lead nowhere else. -/
theorem foldl_follow_of_silent {parts : List String} (h : ∀ part ∈ parts, Path.isSilent part = true) :
    parts.foldl follow p = p := by
  induction parts with
  | nil => rfl
  | cons part parts ih =>
    rw [List.forall_mem_cons] at h
    rw [List.foldl_cons, follow, if_pos h.1, ih h.2]

theorem walk_append_eq_ok_iff {parts more : List String} : d.walk p (parts ++ more) = .ok q ↔
    ∃ middle, d.walk p parts = .ok middle ∧ d.walk middle more = .ok q := by
  rw [walk, List.foldlM_append, bind_eq_ok_iff]
  rfl

/-- A path can be followed without silent parts at its end. -/
theorem walk_of_silent {parts more : List String} (hsilent : ∀ part ∈ more, Path.isSilent part = true)
    (h : d.walk p (parts ++ more) = .ok q) : d.walk p parts = .ok q := by
  obtain ⟨middle, hparts, hmore⟩ := walk_append_eq_ok_iff.mp h
  obtain rfl : middle = q := by
    rw [← foldl_follow_of_walk hmore, foldl_follow_of_silent hsilent]
  exact hparts

/-- A path is what is left of it without the slashes at its end, and silent parts. -/
theorem exists_silent_of_splitEnd {parts : List String} {slash : Bool}
    (h : splitEnd path = (parts, slash)) :
    ∃ more, parts ++ more = Path.segments path ∧ ∀ part ∈ more, Path.isSilent part = true := by
  obtain rfl : (Path.segments path).rdropWhile (fun part => part = "") = parts :=
    congrArg Prod.fst h
  refine ⟨_, List.rdropWhile_append_rtakeWhile, fun part hpart => ?_⟩
  have hempty := List.mem_rtakeWhile_imp hpart
  simp [Path.isSilent, of_decide_eq_true hempty]

/-- **What a path would make is at its place**, with a slash behind the name or without. -/
theorem place_of_target {slash : Bool} (h : d.target path = .ok (.named p slash)) :
    d.place path = p := by
  obtain ⟨-, init, name, hsplit, -, -, hwalk⟩ := target_eq_named_iff.mp h
  obtain ⟨more, hmore, hsilent⟩ := exists_silent_of_splitEnd hsplit
  rw [place, ← hmore, List.foldl_append, foldl_follow_of_walk hwalk,
    foldl_follow_of_silent hsilent]

/-! ### Paths that can be followed -/

theorem checkPath_eq_ok_iff : checkPath path = .ok () ↔ '\x00' ∉ path.toList ∧ path ≠ "" := by
  rw [checkPath]
  split
  next h => simp_all
  next h =>
    split <;> simp_all

/-- A path of parts without an end mark can be followed. -/
theorem checkPath_of_parts {other : String} (h : checkPath path = .ok ()) (hother : other ≠ "")
    (hparts : ∀ part ∈ Path.segments other, part ∈ Path.segments path ∨ '\x00' ∉ part.toList) :
    checkPath other = .ok () := by
  refine checkPath_eq_ok_iff.mpr ⟨fun hmark => ?_, hother⟩
  obtain ⟨part, hpart, hmark⟩ := (Path.mem_toList_iff (by decide)).mp hmark
  obtain hpath | hclean := hparts part hpart
  · exact (checkPath_eq_ok_iff.mp h).1 ((Path.mem_toList_iff (by decide)).mpr ⟨part, hpath, hmark⟩)
  · exact hclean hmark

/-- The parent of a path has no end mark if the path has none. -/
theorem checkPath_parent (h : checkPath path = .ok ()) (hparent : Path.parent? path = some a)
    (ha : a ≠ "") : checkPath a = .ok () := by
  rcases Path.segments_of_parent hparent with rfl | rfl | habove
  · decide
  · exact absurd rfl ha
  · exact checkPath_of_parts h ha fun part hpart => .inl (habove.subset hpart)

/-- **A path leads into a directory.** The empty path leads into the working directory,
although nothing is found under it. -/
def Enters (d : Disk) (path : String) : Prop :=
  ∃ p, d.walk (d.origin path) (Path.segments path) = .ok p ∧ d.entry? p = some .directory

/-- What a path leads into is at the place that it names. -/
theorem Enters.entry?_place (h : d.Enters path) : d.entry? (d.place path) = some .directory := by
  obtain ⟨p, hwalk, hp⟩ := h
  rw [place, foldl_follow_of_walk hwalk, hp]

theorem Enters.find_eq (h : d.Enters path) (hcheck : checkPath path = .ok ()) :
    d.find path = .ok (d.place path, .directory) := by
  refine find_eq_ok_iff.mpr ⟨⟨hcheck, ?_⟩, h.entry?_place⟩
  obtain ⟨p, hwalk, -⟩ := h
  rw [place, foldl_follow_of_walk hwalk, hwalk]

/-- **The parent of a path that can be followed leads into a directory**: the last name was
followed from there. -/
theorem enters_of_parent (h : d.walk (d.origin path) (Path.segments path) = .ok p)
    (hparent : Path.parent? path = some a) : d.Enters a := by
  obtain ⟨more, hmore, -⟩ := Path.exists_silent (Path.segments path)
  simp only [Path.parent?] at hparent
  split at hparent
  · cases hparent
  next htop =>
  obtain rfl := Option.some.inj hparent
  rcases List.eq_nil_or_concat (Path.dropSilent (Path.segments path)) with hnil | ⟨init, last, hinit⟩
  · exact absurd (Path.dropSilent_eq_nil_iff.mp hnil) (Path.segments_ne_nil path)
  rw [List.concat_eq_append] at hinit
  rw [hinit] at htop hmore ⊢
  rw [List.dropLast_concat]
  -- The last name is followed from where the parts before it lead.
  obtain ⟨middle, hmiddle, hdirectory⟩ : ∃ middle, d.walk (d.origin path) init = .ok middle ∧
      d.entry? middle = some .directory := by
    rw [← hmore, List.append_assoc] at h
    obtain ⟨middle, hmiddle, hrest⟩ := walk_append_eq_ok_iff.mp h
    exact ⟨middle, hmiddle, (walk_cons_eq_ok_iff.mp hrest).1⟩
  split
  · exact ⟨[], rfl, rfl⟩
  next hroot =>
  rcases eq_or_ne init [] with rfl | hne
  · -- A single name is a relative path, and its parent is empty.
    have hlast : last ≠ "" := by
      rintro rfl
      simp [Path.isTop] at htop
    have hrelative : Path.isAbsolute path = false := by
      have hparts : Path.segments path = last :: more := by simpa using hmore.symm
      rw [Path.isAbsolute_eq hparts]
      simp [hlast]
    obtain rfl : d.workingDirectory = middle := by
      simpa [origin, hrelative, walk, pure, Except.pure] using hmiddle
    exact ⟨d.workingDirectory, walk_cons_eq_ok_iff.mpr ⟨hdirectory, rfl⟩, hdirectory⟩
  have habove : Path.dropSilent init <+: Path.segments path := by
    rw [← hmore, List.append_assoc]
    exact (Path.dropSilent_isPrefix init).trans (List.prefix_append _ _)
  have hsegments : Path.segments (Path.ofSegments (Path.dropSilent init)) = Path.dropSilent init :=
    Path.segments_ofSegments_of_isPrefix (mt Path.dropSilent_eq_nil_iff.mp hne) habove
  have hnonempty : Path.ofSegments (Path.dropSilent init) ≠ "" := by
    intro hempty
    rw [hempty] at hsegments
    exact hroot hsegments.symm
  refine ⟨middle, ?_, hdirectory⟩
  rw [origin, Path.isAbsolute_of_isPrefix hnonempty (hsegments.symm ▸ habove), hsegments]
  obtain ⟨silent, hsilent, hall⟩ := Path.exists_silent init
  refine walk_of_silent hall ?_
  rwa [hsilent]

/-- **Everything above a path that can be followed is a directory.** -/
theorem Enters.of_above (ha : Path.Above a path) :
    ∀ {p}, d.walk (d.origin path) (Path.segments path) = .ok p → d.Enters a := by
  induction ha with
  | parent hparent => exact fun h => enters_of_parent h hparent
  | beyond hparent _ ih =>
    intro p h
    obtain ⟨middle, hmiddle, -⟩ := enters_of_parent h hparent
    exact ih hmiddle

/-- **The parent of a path that reaches something** is empty, or a directory is found there. -/
theorem Reaches.parent (h : Reaches d path p) (hparent : Path.parent? path = some a) :
    a = "" ∨ d.find a = .ok (d.place a, .directory) := by
  rcases eq_or_ne a "" with rfl | ha
  · exact .inl rfl
  · exact .inr ((enters_of_parent h.walk hparent).find_eq (checkPath_parent h.check hparent ha))

/-! ### Where directories are made -/

/-- What is at a place stays, or there was nothing and now there is a directory, and the place
is that of a path above. -/
def KeptOrAbove (d d' : Disk) (path : String) (q : Place) : Prop :=
  d'.entry? q = d.entry? q ∨
    d.entry? q = none ∧ d'.entry? q = some .directory ∧ ∃ a, Path.Above a path ∧ d.place a = q

/-- Something at a place stays. -/
theorem KeptOrAbove.of_some {entry : DiskEntry} (h : KeptOrAbove d d' path q)
    (hq : d.entry? q = some entry) : d'.entry? q = some entry := by
  rcases h with hkept | ⟨hnone, -⟩
  · exact hkept.trans hq
  · exact nomatch hq.symm.trans hnone

/-- What is kept is kept as long as nothing else happens at its place. -/
theorem KeptOrAbove.of_eq {d'' : Disk} (h : KeptOrAbove d d' path q)
    (heq : d''.entry? q = d'.entry? q) : KeptOrAbove d d'' path q := by
  rwa [KeptOrAbove, heq]

/-- **Making the directories of a file makes what is above its path**, and does nothing else,
whether it comes to an end or not. -/
theorem keptOrAbove_createParents (d : Disk) (path : String) (q : Place) :
    KeptOrAbove d (d.createParents path).1 path q := by
  refine (createParents_induction
    (motive := fun e => e.workingDirectory = d.workingDirectory ∧ KeptOrAbove d e path q)
    ⟨rfl, .inl rfl⟩ ?_).2
  rintro parent hparent a ha e e' ⟨hwd, hkept⟩ hmade
  obtain ⟨made, slash, htarget, hnone, rfl⟩ := createDirectory_eq_ok hmade
  obtain rfl : d.place a = made := by rw [← place_congr hwd, place_of_target htarget]
  have hroot : d.place a ≠ [] := ne_root (d := e) (by simp [hnone])
  have hput := entry?_put (d := e) hroot .directory q
  refine ⟨hwd, ?_⟩
  by_cases hq : q = d.place a
  · rw [if_pos hq] at hput
    subst hq
    rcases hkept with hkept | ⟨-, hdirectory, -⟩
    · exact .inr ⟨hkept.symm.trans hnone, hput, a, Path.above_of_mem_ancestors hparent ha, rfl⟩
    · exact nomatch hnone.symm.trans hdirectory
  · rw [if_neg hq] at hput
    exact hkept.of_eq hput

end Disk

end Blueprint
