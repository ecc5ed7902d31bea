import Blueprint.Path
import Mathlib.Data.List.DropRight

/-!
# The parts of a path

A path and its parts say the same: the text is the parts with slashes between them
(`Blueprint.Path.ofSegments_segments`), and parts without slashes are the parts of their text
(`Blueprint.Path.segments_ofSegments`). So what is done to a path as a text, cutting it to its
parent or putting a file beside it, is done to its parts, and it is there that one sees where
the result leads.

| path | parts |
|---|---|
| one that ends in a name | some parts and the name (`Blueprint.Path.EndsIn`) |
| its parent | the parts before the name, but for silent ones at their end |
| a sibling | these, and the other name (`Blueprint.Path.EndsIn.segments_sibling`) |
| an ancestor | some of the first parts (`Blueprint.Path.segments_of_mem_ancestorsFrom`) |
-/

namespace Blueprint

namespace Path

variable {path : String} {parts init : List String} {name : String}

/-! ### Texts and parts -/

theorem splitSlashes_eq_splitOn (cs : List Char) : splitSlashes cs = cs.splitOn '/' := by
  induction cs with
  | nil => rfl
  | cons c cs ih =>
    rw [splitSlashes, ih, List.splitOn_cons_eq_if_modifyHead]
    cases hparts : cs.splitOn '/' with
    | nil => exact absurd hparts (List.splitOn_ne_nil _ _)
    | cons part parts => by_cases hc : c = '/' <;> simp [hc]

/-- A path has at least one part, though it may be empty. -/
theorem segments_ne_nil (path : String) : segments path ≠ [] := by
  rw [segments, splitSlashes_eq_splitOn, ne_eq, List.map_eq_nil_iff]
  exact List.splitOn_ne_nil _ _

theorem map_toList_segments (path : String) :
    (segments path).map String.toList = path.toList.splitOn '/' := by
  rw [segments, List.map_map, splitSlashes_eq_splitOn]
  exact List.map_id'' (fun _ => String.toList_ofList) _

/-- **A path is its parts** with slashes between them. -/
theorem ofSegments_segments (path : String) : ofSegments (segments path) = path := by
  rw [← String.toList_inj, ofSegments, String.toList_intercalate, map_toList_segments]
  exact List.intercalate_splitOn '/'

/-- No slash is inside a part. -/
theorem slash_notMem (h : name ∈ segments path) : '/' ∉ name.toList := by
  have hparts : ∀ cs : List Char, ∀ part ∈ splitSlashes cs, '/' ∉ part := by
    intro cs
    induction cs with
    | nil => simp [splitSlashes]
    | cons c cs ih =>
      rw [splitSlashes]
      cases hparts : splitSlashes cs with
      | nil => simp
      | cons part parts =>
        rw [hparts, List.forall_mem_cons] at ih
        by_cases hc : c = '/'
        · simpa [hc] using ih
        · simpa [hc, Ne.symm hc] using ih
  obtain ⟨part, hpart, rfl⟩ := List.mem_map.mp h
  rw [String.toList_ofList]
  exact hparts _ part hpart

/-- **Parts without slashes are the parts of their text.** -/
theorem segments_ofSegments (hne : parts ≠ []) (h : ∀ part ∈ parts, '/' ∉ part.toList) :
    segments (ofSegments parts) = parts := by
  have hsplit : (segments (ofSegments parts)).map String.toList = parts.map String.toList := by
    rw [map_toList_segments, ofSegments, String.toList_intercalate]
    refine List.splitOn_intercalate _ ?_ (by simpa using hne)
    simpa using h
  exact List.map_injective_iff.mpr (fun _ _ => String.toList_inj.mp) hsplit

/-- The first parts of a path are the parts of a path. -/
theorem segments_ofSegments_of_isPrefix (hne : parts ≠ []) (h : parts <+: segments path) :
    segments (ofSegments parts) = parts :=
  segments_ofSegments hne fun _ hpart => slash_notMem (h.subset hpart)

theorem segments_eq_singleton_empty : segments path = [""] ↔ path = "" := by
  constructor
  · intro h
    rw [← ofSegments_segments path, h]
    rfl
  · rintro rfl
    rfl

/-- What is in a path besides slashes is in its parts. -/
theorem mem_toList_iff {c : Char} (hc : c ≠ '/') :
    c ∈ path.toList ↔ ∃ part ∈ segments path, c ∈ part.toList := by
  have hchars : ∀ cs : List Char, c ∈ cs ↔ ∃ part ∈ splitSlashes cs, c ∈ part := by
    intro cs
    induction cs with
    | nil => simp [splitSlashes]
    | cons head cs ih =>
      rw [splitSlashes, List.mem_cons, ih]
      cases hparts : splitSlashes cs with
      | nil => exact absurd hparts (by simp [splitSlashes_eq_splitOn])
      | cons part parts =>
        by_cases hhead : head = '/'
        · simp [hhead, hc]
        · simp [hhead, or_assoc]
  rw [hchars, segments]
  simp

/-- A slash between two texts stands between their parts. -/
theorem segments_append_slash (before after : String) :
    segments (before ++ "/" ++ after) = segments before ++ segments after := by
  have hchars : ∀ cs ds : List Char,
      (cs ++ '/' :: ds).splitOn '/' = cs.splitOn '/' ++ ds.splitOn '/' := by
    intro cs ds
    induction cs with
    | nil => simp [List.splitOn_cons_eq_if_modifyHead]
    | cons c cs ih =>
      rw [List.cons_append, List.splitOn_cons_eq_if_modifyHead, ih,
        List.splitOn_cons_eq_if_modifyHead]
      cases hparts : cs.splitOn '/' with
      | nil => exact absurd hparts (List.splitOn_ne_nil _ _)
      | cons part parts => by_cases hc : c = '/' <;> simp [hc]
  have htext : (before ++ "/" ++ after).toList = before.toList ++ '/' :: after.toList := by simp
  rw [segments, htext, splitSlashes_eq_splitOn, hchars, List.map_append, segments, segments,
    splitSlashes_eq_splitOn, splitSlashes_eq_splitOn]

/-- **A path starts at the root** if its first part is empty, and not all of it. -/
theorem isAbsolute_eq {part : String} {rest : List String} (h : segments path = part :: rest) :
    isAbsolute path = decide (part = "" ∧ rest ≠ []) := by
  have hslash : '/' ∉ part.toList := slash_notMem (h ▸ List.mem_cons_self)
  have hpath : path.toList = ['/'].intercalate (part.toList :: rest.map String.toList) := by
    rw [← List.map_cons, ← h, map_toList_segments, List.intercalate_splitOn]
  rw [isAbsolute, hpath, Bool.eq_iff_iff, beq_iff_eq, decide_eq_true_iff, ← String.toList_eq_nil_iff]
  cases hpart : part.toList with
  | nil => cases rest <;> simp
  | cons c cs =>
    have hc : c ≠ '/' := by
      rintro rfl
      exact hslash (hpart ▸ List.mem_cons_self)
    cases rest <;> simp [hc]

/-- **The beginning of a path starts where the path does.** -/
theorem isAbsolute_of_isPrefix {a : String} (ha : a ≠ "") (h : segments a <+: segments path) :
    isAbsolute a = isAbsolute path := by
  obtain ⟨part, rest, hparts⟩ := List.exists_cons_of_ne_nil (segments_ne_nil a)
  obtain ⟨more, hmore⟩ := h
  rw [hparts, List.cons_append] at hmore
  rw [isAbsolute_eq hparts, isAbsolute_eq hmore.symm, decide_eq_decide]
  refine and_congr_right fun hpart => ?_
  have hrest : rest ≠ [] := by
    rintro rfl
    exact ha (segments_eq_singleton_empty.mp (hpart ▸ hparts))
  simp [hrest]

/-! ### Ancestors -/

/-- Parts are those without silent ones at their end, and silent ones. -/
theorem exists_silent (parts : List String) :
    ∃ more, dropSilent parts ++ more = parts ∧ ∀ part ∈ more, isSilent part = true := by
  cases parts with
  | nil => exact ⟨[], rfl, List.forall_mem_nil _⟩
  | cons first rest =>
    refine ⟨rest.rtakeWhile isSilent, ?_, fun part => List.mem_rtakeWhile_imp⟩
    exact congrArg (first :: ·) List.rdropWhile_append_rtakeWhile

theorem dropSilent_isPrefix (parts : List String) : dropSilent parts <+: parts := by
  obtain ⟨more, hmore, -⟩ := exists_silent parts
  exact ⟨more, hmore⟩

/-- The parent of a path is the root, the empty path, or made of some of its first parts. -/
theorem segments_of_parent {parent : String} (h : parent? path = some parent) :
    parent = "/" ∨ parent = "" ∨ segments parent <+: segments path := by
  simp only [parent?] at h
  split at h
  · exact nomatch h
  obtain rfl := Option.some.inj h
  split
  · exact .inl rfl
  right
  have hprefix : dropSilent (dropSilent (segments path)).dropLast <+: segments path :=
    (dropSilent_isPrefix _).trans ((List.dropLast_prefix _).trans (dropSilent_isPrefix _))
  by_cases hparts : dropSilent (dropSilent (segments path)).dropLast = []
  · left
    rw [hparts]
    rfl
  · right
    rwa [segments_ofSegments_of_isPrefix hparts hprefix]

theorem ancestorsFrom_of_top (h : parent? path = none) (fuel : Nat) :
    ancestorsFrom fuel path = [] := by
  cases fuel with
  | zero => rfl
  | succ fuel => rw [ancestorsFrom, h]

/-- What is made of the first parts of the parent is made of the first parts of the path. The
root and the empty path have nothing above them. -/
theorem isPrefix_of_parent {parent a : String} {fuel : Nat} (hparent : parent? path = some parent)
    (h : a ∈ ancestorsFrom fuel parent) (ha : segments a <+: segments parent) :
    segments a <+: segments path := by
  have hroot : ancestorsFrom fuel "/" = [] := ancestorsFrom_of_top rfl fuel
  have hempty : ancestorsFrom fuel "" = [] := ancestorsFrom_of_top rfl fuel
  obtain rfl | rfl | hprefix := segments_of_parent hparent
  · exact nomatch (hroot ▸ h : a ∈ [])
  · exact nomatch (hempty ▸ h : a ∈ [])
  · exact ha.trans hprefix

/-- **The ancestors of a path are made of its first parts**, and so is the path itself. -/
theorem segments_of_mem_ancestorsFrom {a : String} {fuel : Nat} (h : a ∈ ancestorsFrom fuel path) :
    a ≠ "" ∧ segments a <+: segments path := by
  induction fuel generalizing path with
  | zero => exact nomatch h
  | succ fuel ih =>
    rw [ancestorsFrom] at h
    split at h
    · exact nomatch h
    next parent hparent =>
      obtain rfl | h := List.mem_cons.mp h
      · refine ⟨?_, List.prefix_rfl⟩
        rintro rfl
        exact nomatch hparent
      · exact ⟨(ih h).1, isPrefix_of_parent hparent h (ih h).2⟩

/-! ### Paths that end in a name -/

/-- **A path that ends in a name**, which is no dots and has something to say. -/
structure EndsIn (path : String) (init : List String) (name : String) : Prop where
  parts : segments path = init ++ [name]
  named : isSilent name = false
  notDots : name ≠ ".."

namespace EndsIn

variable (h : EndsIn path init name)
include h

theorem dropSilent_eq : dropSilent (segments path) = init ++ [name] := by
  rw [h.parts]
  cases init with
  | nil => rfl
  | cons first rest =>
    refine congrArg (first :: ·) (List.rdropWhile_concat_neg isSilent rest name ?_)
    simp [h.named]

theorem isTop_eq : isTop (init ++ [name]) = false := by
  have hname : name ≠ "" := by
    rintro rfl
    exact nomatch h.named
  cases init with
  | nil => simp [isTop, hname]
  | cons first rest => simp [isTop]

/-- The name that a path ends in is its last name. -/
theorem fileName?_eq : fileName? path = some name := by
  simp [fileName?, h.dropSilent_eq, h.isTop_eq, h.named, h.notDots]

/-- The parent of a path that ends in a name. -/
theorem parent?_eq : parent? path = some (if dropSilent init = [""] then "/"
    else ofSegments (dropSilent init)) := by
  simp [parent?, h.dropSilent_eq, h.isTop_eq]

end EndsIn

/-- A path that ends in a slash has an empty last part. -/
theorem getLast?_segments_of_slash (h : path.toList.getLast? = some '/') :
    (segments path).getLast? = some "" := by
  obtain ⟨cs, hcs⟩ := List.getLast?_eq_some_iff.mp h
  obtain rfl : path = String.ofList cs ++ "/" ++ "" := by
    rw [← String.toList_inj, hcs]
    simp
  rw [segments_append_slash]
  exact List.getLast?_concat

/-- Parts without silent ones at their end do not end in an empty one, unless they are those of
the root. -/
theorem getLast?_dropSilent (h : dropSilent parts ≠ [""]) :
    (dropSilent parts).getLast? ≠ some "" := by
  cases parts with
  | nil => exact nofun
  | cons first rest =>
    intro hlast
    by_cases hrest : rest.rdropWhile isSilent = []
    · have hfirst : dropSilent (first :: rest) = [first] := congrArg (first :: ·) hrest
      rw [hfirst] at h hlast
      exact h (congrArg ([·]) (Option.some.inj hlast))
    · -- The last of these parts is not silent, as an empty one would be.
      have hnamed := List.rdropWhile_last_not isSilent rest hrest
      have hkept : (dropSilent (first :: rest)).getLast? =
          some ((rest.rdropWhile isSilent).getLast hrest) := by
        rw [← List.getLast?_eq_some_getLast hrest]
        exact List.getLast?_cons_of_ne_nil hrest
      rw [Option.some.inj (hkept.symm.trans hlast)] at hnamed
      exact hnamed rfl

/-- **A sibling of a path that ends in a name** has the parts of its parent, and its own name. -/
theorem EndsIn.segments_sibling (h : EndsIn path init name) {other : String}
    (hslash : '/' ∉ other.toList) :
    segments (sibling path other) = dropSilent init ++ [other] := by
  have hsegments : segments (ofSegments [other]) = [other] :=
    segments_ofSegments (by simp) (by simpa using hslash)
  change segments other = [other] at hsegments
  have habsolute : isAbsolute other = false := by
    rw [isAbsolute_eq hsegments]
    simp
  have hprefix : dropSilent init <+: segments path :=
    (dropSilent_isPrefix init).trans (h.parts ▸ List.prefix_append init [name])
  rw [sibling, h.parent?_eq, Option.getD_some, join, habsolute, Bool.false_or]
  -- A parent is the root, or empty, or has a slash put behind it.
  by_cases hroot : dropSilent init = [""]
  · rw [hroot, ← hsegments]
    exact segments_append_slash "" other
  rw [if_neg hroot]
  by_cases hempty : dropSilent init = []
  · rw [hempty]
    exact hsegments
  have hparent := segments_ofSegments_of_isPrefix hempty hprefix
  rw [if_neg, if_neg, segments_append_slash, hparent, hsegments]
  · intro hslash
    have hlast := getLast?_segments_of_slash hslash
    rw [hparent] at hlast
    exact getLast?_dropSilent hroot hlast
  · rw [decide_eq_true_iff]
    intro heq
    rw [heq] at hparent
    exact hroot hparent.symm

/-- A sibling starts where its path does. -/
theorem EndsIn.isAbsolute_sibling (h : EndsIn path init name) {other : String}
    (hslash : '/' ∉ other.toList) : isAbsolute (sibling path other) = isAbsolute path := by
  have hsibling := h.segments_sibling hslash
  have hparts := h.parts
  cases init with
  | nil =>
    rw [isAbsolute_eq hsibling, isAbsolute_eq hparts]
    simp
  | cons first rest =>
    rw [isAbsolute_eq hsibling, isAbsolute_eq hparts]
    simp

end Path

end Blueprint
