import Blueprint.Json.Writer
import Blueprint.Proofs.Project.Views

/-!
# The first value of a name stays

Attributes are inserted one after another, and a name that is taken is refused. So after any
insertions the map holds the first of every name, in the order in which the names came
(`Blueprint.AttributeMap.entries_insertAll`).

A map is written as a mapping in two ways. `Blueprint.AttributeMap.toTree` writes its list of
entries down. `Blueprint.attributesView` collects them one by one, and there a name that came again
would replace the value that it has and keep its old place. The two agree because no name comes
again (`Blueprint.AttributeMap.nodup_insertAll`), and for no other reason: of a list with a repeated
name they give different mappings.
-/

namespace Blueprint

namespace AttributeMap

variable {ops : List (String × Scalar)} {op : String × Scalar} {m : AttributeMap} {name : String}

/-- **One insertion**: the map afterwards, and whether the name was new. -/
def insert (m : AttributeMap) (op : String × Scalar) : AttributeMap × Bool :=
  match m.insert? op.1 op.2 with
  | some m => (m, true)
  | none => (m, false)

/-- **The map after some insertions** into an empty one. -/
def insertAll (ops : List (String × Scalar)) : AttributeMap :=
  ops.foldl (fun m op => (m.insert op).1) .empty

/-- **The first insertion of every name**, in order: those with no insertion of the same name
before. -/
def firsts (ops : List (String × Scalar)) : List (String × Scalar) :=
  (ops.zipIdx.filter fun x => x.1.1 ∉ (ops.take x.2).map (·.1)).map (·.1)

/-! ### One insertion -/

/-- A name that is taken leaves the map as it is. -/
theorem insert_of_mem (h : op.1 ∈ m.entries.map (·.1)) : m.insert op = (m, false) := by
  rw [insert, insert?, if_pos (Load.contains_iff.mpr h)]

/-- A new name goes to the end. -/
theorem insert_of_notMem (h : op.1 ∉ m.entries.map (·.1)) :
    m.insert op = (⟨m.entries ++ [op]⟩, true) := by
  rw [insert, insert?, if_neg (fun hcontains => h (Load.contains_iff.mp hcontains))]

/-! ### Several insertions -/

theorem insertAll_concat (ops : List (String × Scalar)) (op : String × Scalar) :
    insertAll (ops ++ [op]) = ((insertAll ops).insert op).1 := by
  rw [insertAll, List.foldl_append]
  rfl

/-- The names in the map are those that were inserted. -/
theorem mem_names_insertAll :
    name ∈ (insertAll ops).entries.map (·.1) ↔ name ∈ ops.map (·.1) := by
  induction ops using List.reverseRecOn with
  | nil => rfl
  | append_singleton ops op ih =>
    rw [insertAll_concat, List.map_append, List.mem_append, List.map_singleton, List.mem_singleton]
    by_cases h : op.1 ∈ (insertAll ops).entries.map (·.1)
    · rw [insert_of_mem h, ih]
      refine (or_iff_left_of_imp ?_).symm
      rintro rfl
      exact ih.mp h
    · rw [insert_of_notMem h, List.map_append, List.mem_append, ih]
      simp

/-- What one more insertion adds to the first ones. -/
theorem firsts_concat (ops : List (String × Scalar)) (op : String × Scalar) :
    firsts (ops ++ [op]) = firsts ops ++ if op.1 ∈ ops.map (·.1) then [] else [op] := by
  -- What stands before an older insertion is not changed by a later one.
  have hearlier : ∀ x ∈ ops.zipIdx, decide (x.1.1 ∉ ((ops ++ [op]).take x.2).map (·.1)) =
      decide (x.1.1 ∉ (ops.take x.2).map (·.1)) := by
    intro x hx
    have hlt : x.2 < ops.length := by simpa using List.snd_lt_of_mem_zipIdx hx
    rw [List.take_append_of_le_length hlt.le]
  rw [firsts, List.zipIdx_append, List.filter_append, List.map_append, List.filter_congr hearlier]
  refine congrArg _ ?_
  rw [List.zipIdx_singleton, List.filter_singleton, Nat.zero_add, List.take_left']
  · by_cases h : op.1 ∈ ops.map (·.1)
    · simp [h]
    · simp [h]
  · rfl

/-- **After some insertions the map holds the first of every name.** -/
theorem entries_insertAll (ops : List (String × Scalar)) :
    (insertAll ops).entries = firsts ops := by
  induction ops using List.reverseRecOn with
  | nil => rfl
  | append_singleton ops op ih =>
    rw [insertAll_concat, firsts_concat]
    by_cases h : op.1 ∈ ops.map (·.1)
    · rw [insert_of_mem (mem_names_insertAll.mpr h), if_pos h, List.append_nil]
      exact ih
    · rw [insert_of_notMem (fun hmem => h (mem_names_insertAll.mp hmem)), if_neg h, ih]

/-- **No name comes twice**, whatever was inserted. -/
theorem nodup_insertAll (ops : List (String × Scalar)) :
    ((insertAll ops).entries.map (·.1)).Nodup := by
  induction ops using List.reverseRecOn with
  | nil => exact List.nodup_nil
  | append_singleton ops op ih =>
    rw [insertAll_concat]
    by_cases h : op.1 ∈ (insertAll ops).entries.map (·.1)
    · rwa [insert_of_mem h]
    · rw [insert_of_notMem h, List.map_append, List.map_singleton, ← List.concat_eq_append,
        List.nodup_concat]
      exact ⟨h, ih⟩

/-- A name is looked up among the first insertions as it is among all of them. -/
theorem find?_insertAll (ops : List (String × Scalar)) (name : String) :
    (insertAll ops).entries.find? (fun op => op.1 == name) = ops.find? fun op => op.1 == name := by
  induction ops using List.reverseRecOn with
  | nil => rfl
  | append_singleton ops op ih =>
    rw [insertAll_concat, List.find?_append, List.find?_singleton]
    by_cases h : op.1 ∈ (insertAll ops).entries.map (·.1)
    · rw [insert_of_mem h, ih]
      by_cases hop : (op.1 == name) = true
      · -- The name of the refused insertion is found earlier.
        obtain ⟨first, hfirst, hname⟩ := List.mem_map.mp (mem_names_insertAll.mp h)
        have hsome : (ops.find? fun op => op.1 == name).isSome = true :=
          List.find?_isSome.mpr ⟨first, hfirst, by rwa [hname]⟩
        obtain ⟨found, hfound⟩ := Option.isSome_iff_exists.mp hsome
        rw [hfound, Option.some_or]
      · rw [if_neg hop, Option.or_none]
    · rw [insert_of_notMem h, List.find?_append, List.find?_singleton, ih]

/-- Where no name comes twice, the value of a name is the one that stands beside it. -/
theorem get?_eq_some_iff (h : (m.entries.map (·.1)).Nodup) {value : Scalar} :
    m.get? name = some value ↔ (name, value) ∈ m.entries := by
  rw [get?, Option.map_eq_some_iff]
  constructor
  · rintro ⟨entry, hentry, rfl⟩
    have hname : entry.1 = name := by simpa using List.find?_some hentry
    rw [← hname]
    exact List.mem_of_find?_eq_some hentry
  · intro hmem
    have hsome : (m.entries.find? fun entry => entry.1 == name).isSome = true :=
      List.find?_isSome.mpr ⟨_, hmem, beq_self_eq_true name⟩
    obtain ⟨entry, hentry⟩ := Option.isSome_iff_exists.mp hsome
    have hname : entry.1 = name := by simpa using List.find?_some hentry
    have hsame : entry = (name, value) :=
      List.inj_on_of_nodup_map h (List.mem_of_find?_eq_some hentry) hmem hname
    exact ⟨entry, hentry, congrArg Prod.snd hsame⟩

/-! ### Two ways of writing -/

/-- **Entries without a repeated name are collected as they stand.** -/
theorem attributesView_insertAll (ops : List (String × Scalar)) :
    attributesView (insertAll ops) = (firsts ops).map fun entry => (entry.1, entry.2.toTree) := by
  rw [← entries_insertAll]
  refine collectEntries_of_nodup ?_
  rw [List.map_map]
  exact nodup_insertAll ops

/-- A repeated name, which no insertions lead to, would be shown in its first place with its last
value. -/
example : attributesView ⟨[("a", .boolean true), ("b", .boolean true), ("a", .boolean false)]⟩ =
    [("a", .boolean false), ("b", .boolean true)] := by
  rfl

/-- **The first value of a name stays**, whatever is inserted. An insertion is refused exactly when
its name was inserted before, and then nothing changes; the entries are the first insertion of every
name, in order; and names are looked up among them. The map is written as the mapping of these
entries in both of the two ways. -/
theorem insertAll_keeps_first (ops : List (String × Scalar)) :
    (∀ op, (insertAll ops).insert op = if op.1 ∈ ops.map (·.1) then (insertAll ops, false)
      else (⟨(insertAll ops).entries ++ [op]⟩, true)) ∧
    (insertAll ops).entries = firsts ops ∧
    (∀ name value, (insertAll ops).get? name = some value ↔ (name, value) ∈ firsts ops) ∧
    (∀ name, (insertAll ops).contains name = true ↔ name ∈ (firsts ops).map (·.1)) ∧
    (∀ name, (insertAll ops).get? name = (ops.find? fun op => op.1 == name).map (·.2)) ∧
    (insertAll ops).toTree =
      .mapping ((firsts ops).map fun entry => (entry.1, entry.2.toTree)) ∧
    attributesView (insertAll ops) =
      ((firsts ops).map fun entry => (entry.1, entry.2.toTree)) ∧
    Json.compact (insertAll ops).toTree =
      Json.compact (.mapping (attributesView (insertAll ops))) := by
  have htree : (insertAll ops).toTree = .mapping (attributesView (insertAll ops)) := by
    rw [attributesView_insertAll, toTree, entries_insertAll]
  refine ⟨fun op => ?_, entries_insertAll ops, fun name value => ?_, fun name => ?_,
    fun name => congrArg _ (find?_insertAll ops name), ?_, attributesView_insertAll ops,
    congrArg Json.compact htree⟩
  · by_cases h : op.1 ∈ ops.map (·.1)
    · rw [if_pos h, insert_of_mem (mem_names_insertAll.mpr h)]
    · rw [if_neg h, insert_of_notMem fun hmem => h (mem_names_insertAll.mp hmem)]
  · rw [← entries_insertAll]
    exact get?_eq_some_iff (nodup_insertAll ops)
  · rw [← entries_insertAll]
    exact Load.contains_iff
  · rw [htree, attributesView_insertAll]

end AttributeMap

end Blueprint
