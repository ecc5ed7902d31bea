import Blueprint.Proofs.Load.Grammar
import Blueprint.Proofs.Load.Success
import Mathlib.Data.List.TakeWhile

/-!
# Filling in a form, entry by entry

An entity is read by entering its entries into a form one after another, each into a slot
that must be free. What comes of it is nothing but looking fields up:
`Blueprint.Form.Law.draft_yields` says that a fragment is accepted exactly when it is a
record of the fields of the form whose values are all acceptable, and that the draft then
holds, slot by slot, what stands under the name of the slot.

What a form has to satisfy for that is a `Blueprint.Form.Law`: every slot has one key, its
name, and whether a value is accepted, and as what, does not depend on what else has been read,
except in errors. A definition breaks the second condition, since the types that have been
read decide which properties are accepted. A law therefore speaks of the entries that stand
before the one that is read; all laws but that of definitions ignore them.
-/

namespace Blueprint

/-! ### Looking keys up in a growing list of entries -/

namespace Tree

variable {entries : Entries} {key k : String} {value : Tree}

theorem lookup?_eq_none_iff : lookup? entries key = none ↔ key ∉ entries.map (·.1) := by
  rw [lookup?, Option.map_eq_none_iff, List.find?_eq_none]
  constructor
  · intro h hmem
    obtain ⟨entry, he, rfl⟩ := List.mem_map.mp hmem
    exact h entry he (beq_self_eq_true _)
  · intro h entry he hkey
    exact h (List.mem_map.mpr ⟨entry, he, eq_of_beq hkey⟩)

theorem mem_keys_of_lookup? (h : lookup? entries key = some value) : key ∈ entries.map (·.1) :=
  by_contra fun hmem => nomatch h.symm.trans (lookup?_eq_none_iff.mpr hmem)

@[simp] theorem get?_mapping : (mapping entries).get? key = lookup? entries key := rfl

@[simp] theorem before_mapping :
    (mapping entries).before key = mapping (entriesBefore entries key) := rfl

/-- A new key is found at the end. -/
theorem lookup?_concat_self (h : key ∉ entries.map (·.1)) :
    lookup? (entries ++ [(key, value)]) key = some value := by
  have hnone : entries.find? (fun entry => entry.1 == key) = none := by
    rw [← Option.map_eq_none_iff]
    exact lookup?_eq_none_iff.mpr h
  rw [lookup?, List.find?_append, hnone]
  simp

/-- An entry of another key changes nothing. -/
theorem lookup?_concat_of_ne (h : k ≠ key) :
    lookup? (entries ++ [(k, value)]) key = lookup? entries key := by
  rw [lookup?, List.find?_append, List.find?_cons_of_neg (by simpa using h), List.find?_nil,
    Option.or_none, lookup?]

/-- All entries stand before a key that is none of theirs. -/
theorem entriesBefore_of_notMem (h : key ∉ entries.map (·.1)) :
    entriesBefore entries key = entries := by
  rw [entriesBefore, List.takeWhile_eq_self_iff]
  intro entry he
  rw [bne_iff_ne]
  exact fun hkey => h (List.mem_map.mpr ⟨entry, he, hkey⟩)

theorem entriesBefore_concat_self (h : key ∉ entries.map (·.1)) :
    entriesBefore (entries ++ [(key, value)]) key = entries := by
  have hall := entriesBefore_of_notMem h
  rw [entriesBefore, List.takeWhile_eq_self_iff] at hall
  rw [entriesBefore, List.takeWhile_append_of_pos hall, List.takeWhile_cons_of_neg (by simp),
    List.append_nil]

/-- What stands before the first entry of a key is settled once there is one. -/
theorem entriesBefore_concat_of_mem (h : key ∈ entries.map (·.1)) :
    entriesBefore (entries ++ [(k, value)]) key = entriesBefore entries key := by
  obtain ⟨entry, he, hkey⟩ := List.mem_map.mp h
  rw [entriesBefore, List.takeWhile_append, if_neg, entriesBefore]
  intro hlength
  have hall := List.takeWhile_eq_self_iff.mp ((List.takeWhile_prefix _).eq_of_length hlength)
  simpa [hkey] using hall entry he

/-- What stands before a key is what stands in the mapping. -/
theorem get?_of_get?_before {d v : Tree} (h : (d.before key).get? k = some v) :
    d.get? k = some v := by
  cases d with
  | mapping entries =>
    have hsplit : entries = entriesBefore entries key ++
        entries.dropWhile fun entry => entry.1 != key := List.takeWhile_append_dropWhile.symm
    rw [before_mapping, get?_mapping, lookup?, Option.map_eq_some_iff] at h
    obtain ⟨entry, hentry, rfl⟩ := h
    rw [get?_mapping, hsplit, lookup?, List.find?_append, hentry]
    rfl
  | _ => exact h

end Tree

namespace Form

open Load Blueprint.Tree

variable {F : Form}

/-- Entries are entered one after another. -/
theorem enterAll_concat (entries : Entries) (entry : String × Tree) :
    F.enterAll (entries ++ [entry]) = (F.enterAll entries >>= fun d => F.enter d entry) := by
  simp only [enterAll, List.foldlM_append, List.foldlM_cons, List.foldlM_nil, bind_pure]

/-- The draft that comes of looking the name of every slot up. -/
def lookedUp (value : Tree → (s : F.Slot) → Tree → F.Value s) (t : Tree) : F.Draft :=
  fun s => (t.get? (F.slotName s)).map (value (t.before (F.slotName s)) s)

variable (F) in
/-- **What a form asks of its entries.** Every slot is filled under its own name alone, and
every value is accepted or refused in the light of the part of the mapping that stands
before it. -/
structure Law where
  /-- All slots. -/
  slots : List F.Slot
  /-- The values that a slot takes, after some entries. -/
  accepts : Tree → F.Slot → Tree → Prop
  /-- What a slot makes of a value that it takes. -/
  value : Tree → (s : F.Slot) → Tree → F.Value s
  slot?_eq_some_iff : ∀ {k s}, F.slot? k = some s ↔ F.slotName s = k
  mem_slots : ∀ s, s ∈ slots
  read_yields : ∀ before s raw, Yields (F.read (lookedUp value before) (F.slotName s) s raw)
    (accepts before s raw) (value before s raw)

namespace Law

variable (L : F.Law) {entries : Entries} {s : F.Slot} {raw : Tree}

/-- The names of the slots. -/
def fields : List String := L.slots.map F.slotName

theorem mem_fields_iff {k : String} : k ∈ L.fields ↔ ∃ s, F.slotName s = k := by
  rw [fields, List.mem_map]
  exact exists_congr fun s => and_iff_right (L.mem_slots s)

/-- The draft of a fragment, by looking keys up. -/
def draftOf (t : Tree) : F.Draft := lookedUp L.value t

include L in
theorem slotName_injective {s t : F.Slot} (h : F.slotName s = F.slotName t) : s = t :=
  Option.some.inj ((L.slot?_eq_some_iff.mpr h).symm.trans (L.slot?_eq_some_iff.mpr rfl))

theorem draftOf_apply (t : Tree) (s : F.Slot) :
    L.draftOf t s = (t.get? (F.slotName s)).map (L.value (t.before (F.slotName s)) s) := rfl

/-- A slot is free as long as no entry has its key. -/
theorem isSome_draftOf_iff :
    (L.draftOf (.mapping entries) s).isSome = true ↔ F.slotName s ∈ entries.map (·.1) := by
  rw [draftOf_apply, get?_mapping, Option.isSome_map, Option.isSome_iff_ne_none, ne_eq,
    lookup?_eq_none_iff, not_not]

/-- **Filling a free slot is looking keys up in one more entry.** -/
theorem fill_draftOf (h : F.slotName s ∉ entries.map (·.1)) :
    Draft.fill (L.draftOf (.mapping entries)) s (L.value (.mapping entries) s raw) =
      L.draftOf (.mapping (entries ++ [(F.slotName s, raw)])) := by
  -- The slot that is filled finds the new entry, any other one what it found before.
  funext t
  by_cases hst : s = t
  · subst hst
    rw [Draft.fill, dif_pos rfl, draftOf_apply, get?_mapping, before_mapping,
      lookup?_concat_self h, entriesBefore_concat_self h, Option.map_some]
  · have hkey : F.slotName s ≠ F.slotName t := fun h => hst (L.slotName_injective h)
    rw [Draft.fill, dif_neg hst, draftOf_apply, draftOf_apply, get?_mapping, get?_mapping,
      before_mapping, before_mapping, lookup?_concat_of_ne hkey]
    by_cases hmem : F.slotName t ∈ entries.map (·.1)
    · rw [entriesBefore_concat_of_mem hmem]
    · rw [lookup?_eq_none_iff.mpr hmem, Option.map_none, Option.map_none]

/-- **One entry**: its key is a new one among those of the form, and its value is
accepted after the entries before it. -/
theorem enter_yields (entries : Entries) (k : String) (raw : Tree) :
    Yields (F.enter (L.draftOf (.mapping entries)) (k, raw))
      ((k ∈ L.fields ∧ k ∉ entries.map (·.1)) ∧
        ∀ s, F.slotName s = k → L.accepts (.mapping entries) s raw)
      (L.draftOf (.mapping (entries ++ [(k, raw)]))) := by
  rw [enter]
  cases hs : F.slot? k with
  | none =>
    refine Yields.error _ fun h => ?_
    obtain ⟨s, hkey⟩ := L.mem_fields_iff.mp h.1.1
    exact nomatch hs.symm.trans (L.slot?_eq_some_iff.mpr hkey)
  | some s =>
    obtain rfl := L.slot?_eq_some_iff.mp hs
    dsimp only
    by_cases hmem : F.slotName s ∈ entries.map (·.1)
    · rw [if_pos (L.isSome_draftOf_iff.mpr hmem)]
      exact Yields.error _ fun h => h.1.2 hmem
    · -- The slot is free, so that it is up to its reader.
      rw [if_neg (fun h => hmem (L.isSome_draftOf_iff.mp h))]
      refine ((L.read_yields (.mapping entries) s raw).map _).congr ?_ fun _ => L.fill_draftOf hmem
      constructor
      · refine fun h => ⟨⟨L.mem_fields_iff.mpr ⟨s, rfl⟩, hmem⟩, fun t ht => ?_⟩
        rwa [L.slotName_injective ht]
      · exact fun h => h.2 s rfl

/-- The values of some entries are acceptable, each after the entries before it. -/
def Acceptable (t : Tree) : Prop :=
  ∀ s, Grammar.Allows t (F.slotName s) (L.accepts (t.before (F.slotName s)) s)

/-- **What one more entry adds to the acceptable values**: its own, when its key is
new. -/
theorem acceptable_concat_iff {k : String} (hnew : k ∉ entries.map (·.1)) :
    L.Acceptable (.mapping (entries ++ [(k, raw)])) ↔ L.Acceptable (.mapping entries) ∧
      ∀ s, F.slotName s = k → L.accepts (.mapping entries) s raw := by
  constructor
  · intro h
    refine ⟨fun s v hv => ?_, fun s hs => ?_⟩
    · -- What stands before an older entry is the same with the new entry at the end.
      rw [get?_mapping] at hv
      have hmem := mem_keys_of_lookup? hv
      have hkey : k ≠ F.slotName s := fun h => hnew (h ▸ hmem)
      have haccepts := h s v
      rw [get?_mapping, before_mapping, lookup?_concat_of_ne hkey,
        entriesBefore_concat_of_mem hmem] at haccepts
      exact haccepts hv
    · subst hs
      have haccepts := h s raw
      rw [get?_mapping, before_mapping, lookup?_concat_self hnew,
        entriesBefore_concat_self hnew] at haccepts
      exact haccepts rfl
  · rintro ⟨hold, hraw⟩ s v hv
    rw [get?_mapping] at hv
    rw [before_mapping]
    by_cases hkey : k = F.slotName s
    · subst hkey
      rw [lookup?_concat_self hnew, Option.some.injEq] at hv
      rw [entriesBefore_concat_self hnew, ← hv]
      exact hraw s rfl
    · rw [lookup?_concat_of_ne hkey] at hv
      rw [entriesBefore_concat_of_mem (mem_keys_of_lookup? hv)]
      exact hold s v hv

/-- **All entries**: their keys are distinct and keys of the form, and their values are
acceptable. -/
theorem enterAll_yields (entries : Entries) :
    Yields (F.enterAll entries)
      (((entries.map (·.1)).Nodup ∧ ∀ k ∈ entries.map (·.1), k ∈ L.fields) ∧
        L.Acceptable (.mapping entries))
      (L.draftOf (.mapping entries)) := by
  induction entries using List.reverseRecOn with
  | nil =>
    refine (Yields.pure _).congr ⟨fun _ => ⟨by simp, fun s v hv => nomatch hv⟩, fun _ => trivial⟩ ?_
    exact fun _ => rfl
  | append_singleton entries entry ih =>
    obtain ⟨k, raw⟩ := entry
    rw [enterAll_concat]
    refine (ih.bind fun _ => L.enter_yields entries k raw).congr ?_ fun _ => rfl
    rw [List.map_append, List.map_singleton, ← List.concat_eq_append, List.nodup_concat,
      List.concat_eq_append, List.forall_mem_append, List.forall_mem_singleton]
    constructor
    · rintro ⟨⟨⟨hnodup, hfields⟩, hold⟩, ⟨hk, hnew⟩, hraw⟩
      exact ⟨⟨⟨hnew, hnodup⟩, hfields, hk⟩, (L.acceptable_concat_iff hnew).mpr ⟨hold, hraw⟩⟩
    · rintro ⟨⟨⟨hnew, hnodup⟩, hfields, hk⟩, hall⟩
      obtain ⟨hold, hraw⟩ := (L.acceptable_concat_iff hnew).mp hall
      exact ⟨⟨⟨hnodup, hfields⟩, hold⟩, ⟨hk, hnew⟩, hraw⟩

/-- **A fragment is accepted when it is a record of the form's fields with acceptable
values**, and its draft is what looking the fields up gives. -/
theorem draft_yields (t : Tree) :
    Yields (F.draft t) (Grammar.IsRecord L.fields t ∧ L.Acceptable t) (L.draftOf t) := by
  cases t with
  | mapping entries =>
    refine (L.enterAll_yields entries).congr (and_congr_left fun _ => ?_) fun _ => rfl
    constructor
    · exact fun h => ⟨entries, rfl, h⟩
    · rintro ⟨_, ⟨⟩, h⟩
      exact h
  | _ =>
    refine Yields.error _ ?_
    rintro ⟨⟨_, h, _⟩, _⟩
    exact nomatch h

end Law

end Form

end Blueprint
