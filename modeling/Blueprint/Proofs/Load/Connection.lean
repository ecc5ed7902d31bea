import Blueprint.Load.Assembly
import Mathlib.Data.List.Induction

/-!
# Putting links in place

The links of a project are put in place one at a time, and every one of them changes two
objects, or one object twice. What the objects look like in between is
`Blueprint.Load.wired`: the links read so far are rows, one for each source, and an object
has the row of its own position for its links and, for its reverse links, the handles of
all links that lead to it (`Blueprint.Load.handlesTo`).

| what happens | lemma |
|---|---|
| one more link in the last row | `Blueprint.Load.connect_wired` |
| one more row | `Blueprint.Load.connectAll_wired` |
| all rows | `Blueprint.Load.connectAll_flatten` |

The handles that lead to an object are in the order of the file
(`Blueprint.Load.pairwise_handlesTo`), and no others than those of links with that target
(`Blueprint.Load.mem_handlesTo_iff`).
-/

namespace Blueprint

/-- **The order of the file** among links: by source, and by position within a source. -/
def LinkHandle.Before (h k : LinkHandle) : Prop :=
  h.object < k.object ∨ h.object = k.object ∧ h.position < k.position

namespace Load

/-! ### Handles that lead to a target -/

/-- The handles of the links of one source that lead to a target. -/
def rowHandles (target source : Nat) (row : List Link) : List LinkHandle :=
  (row.zipIdx.filter fun x => x.1.target == target).map fun x => ⟨source, x.2⟩

/-- **The handles of all links that lead to a target**, source by source. -/
def handlesTo (rows : List (List Link)) (target : Nat) : List LinkHandle :=
  rows.zipIdx.flatMap fun x => rowHandles target x.2 x.1

theorem rowHandles_concat (target source : Nat) (row : List Link) (l : Link) :
    rowHandles target source (row ++ [l]) = rowHandles target source row ++
      if l.target = target then [⟨source, row.length⟩] else [] := by
  rw [rowHandles, List.zipIdx_append, List.filter_append, List.map_append, Nat.zero_add,
    List.zipIdx_singleton]
  by_cases h : l.target = target
  · simp [rowHandles, h]
  · simp [rowHandles, h]

theorem handlesTo_concat (rows : List (List Link)) (row : List Link) (target : Nat) :
    handlesTo (rows ++ [row]) target =
      handlesTo rows target ++ rowHandles target rows.length row := by
  rw [handlesTo, List.zipIdx_append, List.flatMap_append, Nat.zero_add, List.zipIdx_singleton,
    List.flatMap_singleton]
  rfl

/-- **Which handles lead to a target**: those of the links that have it. -/
theorem mem_handlesTo_iff {rows : List (List Link)} {target : Nat} {h : LinkHandle} :
    h ∈ handlesTo rows target ↔ ∃ row l, rows[h.object]? = some row ∧
      row[h.position]? = some l ∧ l.target = target := by
  simp only [handlesTo, rowHandles, List.mem_flatMap, List.mem_map, List.mem_filter]
  constructor
  · rintro ⟨⟨row, i⟩, hrow, ⟨l, j⟩, ⟨hl, htarget⟩, rfl⟩
    exact ⟨row, l, List.mem_zipIdx_iff_getElem?.mp hrow, List.mem_zipIdx_iff_getElem?.mp hl,
      eq_of_beq htarget⟩
  · rintro ⟨row, l, hrow, hl, htarget⟩
    exact ⟨(row, h.object), List.mem_zipIdx_iff_getElem?.mpr hrow, (l, h.position),
      ⟨List.mem_zipIdx_iff_getElem?.mpr hl, beq_iff_eq.mpr htarget⟩, rfl⟩

/-- The numbers of a numbered list increase. -/
theorem pairwise_zipIdx {α : Type} (xs : List α) (n : Nat) :
    (xs.zipIdx n).Pairwise fun x y => x.2 < y.2 := by
  rw [← List.pairwise_map, List.zipIdx_map_snd]
  exact List.pairwise_lt_range'

/-- **The handles that lead to a target are in the order of the file**, and none is
repeated. -/
theorem pairwise_handlesTo (rows : List (List Link)) (target : Nat) :
    (handlesTo rows target).Pairwise LinkHandle.Before := by
  rw [handlesTo, List.pairwise_flatMap]
  constructor
  · rintro ⟨row, i⟩ -
    rw [rowHandles, List.pairwise_map]
    refine ((pairwise_zipIdx row 0).filter _).imp ?_
    exact fun hlt => .inr ⟨rfl, hlt⟩
  · refine (pairwise_zipIdx rows 0).imp ?_
    intro x y hlt h hx k hy
    obtain ⟨-, -, rfl⟩ := List.mem_map.mp hx
    obtain ⟨-, -, rfl⟩ := List.mem_map.mp hy
    exact .inl hlt

/-! ### The objects in between -/

/-- **The objects with some rows of links in place.** -/
def wired (objects : List Object) (rows : List (List Link)) : List Object :=
  objects.zipIdx.map fun x =>
    { x.1 with links := rows.getD x.2 [], reverseLinks := handlesTo rows x.2 }

theorem getElem?_wired (objects : List Object) (rows : List (List Link)) (i : Nat) :
    (wired objects rows)[i]? = objects[i]?.map fun o =>
      { o with links := rows.getD i [], reverseLinks := handlesTo rows i } := by
  rw [wired, List.getElem?_map, List.getElem?_zipIdx, Option.map_map, Nat.zero_add]
  rfl

/-- The links of an object when there is one more row. -/
theorem getD_concat (rows : List (List Link)) (row : List Link) (i : Nat) :
    (rows ++ [row]).getD i [] = rows.getD i [] ++ if rows.length = i then row else [] := by
  rw [List.getD_eq_getElem?_getD, List.getD_eq_getElem?_getD]
  rcases Nat.lt_trichotomy i rows.length with hi | rfl | hi
  · rw [List.getElem?_append_left hi, if_neg (by omega), List.append_nil]
  · rw [List.getElem?_concat_length, List.getElem?_eq_none (Nat.le_refl _), if_pos rfl]
    rfl
  · have hrows : rows.length ≤ i := by omega
    have hmore : (rows ++ [row]).length ≤ i := by
      rw [List.length_append, List.length_singleton]
      omega
    rw [List.getElem?_eq_none hrows, List.getElem?_eq_none hmore, if_neg (by omega)]
    rfl

/-- **One more link in the last row.** -/
theorem connect_wired {objects : List Object} {rows : List (List Link)} {row : List Link}
    {l : Link} (hsource : l.source = rows.length) (hlt : rows.length < objects.length) :
    connect (wired objects (rows ++ [row])) l = wired objects (rows ++ [row ++ [l]]) := by
  have hposition : (((wired objects (rows ++ [row]))[l.source]?).map
      fun o => o.links.length).getD 0 = row.length := by
    rw [getElem?_wired, hsource, List.getElem?_eq_getElem hlt, List.getD_eq_getElem?_getD,
      List.getElem?_concat_length]
    rfl
  -- An object is the source, the target, both or neither.
  refine List.ext_getElem? fun i => ?_
  rw [connect, hposition, List.getElem?_modify, List.getElem?_modify, getElem?_wired,
    getElem?_wired, getD_concat, getD_concat, handlesTo_concat, handlesTo_concat, rowHandles_concat,
    hsource]
  cases objects[i]? with
  | none => rfl
  | some o =>
    by_cases hi : rows.length = i <;> by_cases ht : l.target = i <;>
      simp [hi, ht]

/-- A row without links changes nothing. -/
theorem wired_concat_nil (objects : List Object) (rows : List (List Link)) :
    wired objects (rows ++ [[]]) = wired objects rows := by
  refine List.ext_getElem? fun i => ?_
  have hnone : rowHandles i rows.length [] = [] := rfl
  rw [getElem?_wired, getElem?_wired, handlesTo_concat, getD_concat, ite_self, hnone,
    List.append_nil, List.append_nil]

/-- **One more row**, its links in order. -/
theorem connectAll_wired {objects : List Object} {rows : List (List Link)} {row : List Link}
    (hsource : ∀ l ∈ row, l.source = rows.length) (hlt : rows.length < objects.length) :
    connectAll (wired objects rows) row = wired objects (rows ++ [row]) := by
  -- A link finds those before it in place, so the row grows at its end.
  induction row using List.reverseRecOn with
  | nil => exact (wired_concat_nil objects rows).symm
  | append_singleton row l ih =>
    rw [List.forall_mem_append, List.forall_mem_singleton] at hsource
    have hrow : connectAll (wired objects rows) row = wired objects (rows ++ [row]) := ih hsource.1
    rw [connectAll, List.foldl_append]
    change connect (connectAll (wired objects rows) row) l = _
    rw [hrow]
    exact connect_wired hsource.2 hlt

/-- Every row holds the links of the source that it stands for. -/
def AreRows (rows : List (List Link)) : Prop :=
  ∀ x ∈ rows.zipIdx, ∀ l ∈ x.1, l.source = x.2

theorem areRows_concat_iff {rows : List (List Link)} {row : List Link} :
    AreRows (rows ++ [row]) ↔ AreRows rows ∧ ∀ l ∈ row, l.source = rows.length := by
  rw [AreRows, List.zipIdx_append, List.forall_mem_append, Nat.zero_add, List.zipIdx_singleton,
    List.forall_mem_singleton, AreRows]

/-- **All rows.** -/
theorem connectAll_flatten {objects : List Object} {rows : List (List Link)}
    (hrows : AreRows rows) (hlength : rows.length ≤ objects.length) :
    connectAll (wired objects []) rows.flatten = wired objects rows := by
  induction rows using List.reverseRecOn with
  | nil => rfl
  | append_singleton rows row ih =>
    rw [List.length_append, List.length_singleton] at hlength
    obtain ⟨hbefore, hlast⟩ := areRows_concat_iff.mp hrows
    have hdone : connectAll (wired objects []) rows.flatten = wired objects rows :=
      ih hbefore (by omega)
    rw [List.flatten_concat, connectAll, List.foldl_append]
    change connectAll (connectAll (wired objects []) rows.flatten) row = _
    rw [hdone]
    exact connectAll_wired hlast (by omega)

end Load

end Blueprint
