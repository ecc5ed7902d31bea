import Blueprint.Proofs.Load.Acceptance
import Mathlib.Data.List.FinRange

/-!
# Objects in another order

The position of an object among the objects of a definition is its identity in the project:
links, index owners and handles are all given by it. If the objects are put in another order,
positions change and nothing else does (`Blueprint.Load.load_withObjectOrder`).

A permutation `s` of the positions says where each object goes: the one at `i` to `s i`
(`Blueprint.rearranged`). The references of an object follow it
(`Blueprint.Object.renumbered`), in place with one exception. The reverse links of an object are
listed source by source, and the sources have changed places, so their list is the renumbered
one in another order.

What makes it true is that names are looked up and not positions. The loader collects the names
of all objects before it reads a link, and the names are distinct, so a name that stood at `i`
is found at `s i`, whether the link that mentions it comes before or after.
-/

namespace Blueprint

/-! ### Items in another order -/

section Rearranged

variable {α : Type}

/-- **A list in another order**: the item at `i` goes to the position `s i`. -/
def rearranged (xs : List α) (s : Equiv.Perm (Fin xs.length)) : List α :=
  List.ofFn fun i => xs[s.symm i]

/-- Where a permutation of the first positions sends a position; the others stay. -/
def positionUnder {n : Nat} (s : Equiv.Perm (Fin n)) (i : Nat) : Nat :=
  if h : i < n then s ⟨i, h⟩ else i

variable {n : Nat} (s : Equiv.Perm (Fin n))

theorem positionUnder_val (i : Fin n) : positionUnder s i = s i := by
  rw [positionUnder, dif_pos i.isLt]

variable (xs : List α) (s : Equiv.Perm (Fin xs.length))

theorem rearranged_perm : (rearranged xs s).Perm xs := by
  have hmoved := Equiv.Perm.ofFn_comp_perm s.symm fun i => xs[i]
  have hself : List.ofFn (fun i : Fin xs.length => xs[i]) = xs := List.ofFn_getElem
  rwa [hself] at hmoved

/-- An item is found where it has been moved to. -/
theorem getElem?_rearranged (i : Nat) : (rearranged xs s)[positionUnder s i]? = xs[i]? := by
  by_cases hi : i < xs.length
  · have hval : positionUnder s i = s ⟨i, hi⟩ := positionUnder_val s ⟨i, hi⟩
    rw [hval, rearranged, List.getElem?_ofFn, dif_pos (s ⟨i, hi⟩).isLt, Fin.eta,
      List.getElem?_eq_getElem hi]
    simp
  · have hlength : (rearranged xs s).length = xs.length := List.length_ofFn
    rw [positionUnder, dif_neg hi, List.getElem?_eq_none (by omega),
      List.getElem?_eq_none (by omega)]

/-- **The numbered items of a rearranged list** are those of the list, with the numbers that
they have got. -/
theorem zipIdx_rearranged_perm : (rearranged xs s).zipIdx.Perm
    (xs.zipIdx.map fun x => (x.1, positionUnder s x.2)) := by
  -- Both lists tabulate this function, one of them in the other order.
  let place := fun i : Fin xs.length => (xs[i], ((s i : Fin xs.length) : Nat))
  have hnew : (rearranged xs s).zipIdx = List.ofFn (place ∘ s.symm) := by
    refine List.ext_getElem (by simp [rearranged]) fun i h₁ h₂ => ?_
    simp [rearranged, place]
  have hold : xs.zipIdx.map (fun x => (x.1, positionUnder s x.2)) = List.ofFn place := by
    refine List.ext_getElem (by simp) fun i h₁ h₂ => ?_
    have hi : i < xs.length := by simpa using h₂
    simpa [place] using positionUnder_val s ⟨i, hi⟩
  rw [hnew, hold]
  exact Equiv.Perm.ofFn_comp_perm s.symm place

end Rearranged

/-! ### References that follow their objects -/

section Renumbered

variable (s : Nat → Nat)

/-- The handle of a property whose object has moved. -/
def PropertyHandle.renumbered (h : PropertyHandle) : PropertyHandle := ⟨s h.object, h.position⟩

/-- The handle of a link whose source has moved. -/
def LinkHandle.renumbered (h : LinkHandle) : LinkHandle := ⟨s h.object, h.position⟩

/-- A link whose source and target have moved. -/
def Link.renumbered (l : Link) : Link := { l with source := s l.source, target := s l.target }

def KeyReference.renumbered : KeyReference → KeyReference
  | .property h => .property (h.renumbered s)
  | .link h => .link (h.renumbered s)

def IndexKey.renumbered (k : IndexKey) : IndexKey := { k with reference := k.reference.renumbered s }

/-- An index whose object has moved. -/
def Index.renumbered (x : Index) : Index :=
  { x with keys := x.keys.map (IndexKey.renumbered s), object := s x.object }

/-- **An object after objects have moved**: every position of an object in it is replaced by
the position that this object has now. -/
def Object.renumbered (o : Object) : Object :=
  { o with
    links := o.links.map (Link.renumbered s)
    reverseLinks := o.reverseLinks.map (LinkHandle.renumbered s)
    indexes := o.indexes.map (Index.renumbered s) }

/-- Two objects that differ at most in the order of their reverse links. -/
structure Object.SameButOrder (o o' : Object) : Prop where
  rest : { o' with reverseLinks := o.reverseLinks } = o
  reverseLinks : o'.reverseLinks.Perm o.reverseLinks

/-- **A project with its objects moved**: everything that belongs to no object is the same, and
the object at `i` stands at `s i`, renumbered. -/
structure Project.IsRenumberingOf (q : Project) (s : Nat → Nat) (p : Project) : Prop where
  name : q.name = p.name
  attributes : q.attributes = p.attributes
  dataTypes : q.dataTypes = p.dataTypes
  files : q.files = p.files
  count : q.objects.length = p.objects.length
  object : ∀ i o, p.objects[i]? = some o →
    ∃ o', q.objects[s i]? = some o' ∧ (o.renumbered s).SameButOrder o'

end Renumbered

/-! ### Definitions with their objects in another order -/

namespace Tree

/-- A mapping with another value under a key. -/
def withField (t : Tree) (key : String) (value : Tree) : Tree :=
  match t with
  | .mapping entries =>
    .mapping (entries.map fun entry => (entry.1, if entry.1 = key then value else entry.2))
  | t => t

/-- **A definition with its objects in another order.** -/
def withObjectOrder (d : Tree) (s : Equiv.Perm (Fin (d.itemsAt "objects").length)) : Tree :=
  d.withField "objects" (.sequence (rearranged (d.itemsAt "objects") s))

variable {t value : Tree} {key k : String}

/-- The value under a key, when one key has got another value. -/
theorem get?_withField :
    (t.withField key value).get? k = (t.get? k).map fun v => if k = key then value else v := by
  cases t with
  | mapping entries =>
    rw [withField, get?_mapping, get?_mapping, lookup?, lookup?, List.find?_map, Option.map_map,
      Option.map_map]
    -- The entry that is found has the key that is looked for.
    refine Option.map_congr fun entry hentry => ?_
    have hkey : entry.1 = k := by simpa using List.find?_some hentry
    simp [hkey]
  | _ => rfl

theorem get?_withField_of_ne (h : k ≠ key) : (t.withField key value).get? k = t.get? k := by
  rw [get?_withField]
  simp [h]

/-- What stands before a key is the same when the key has another value. -/
theorem before_withField : (t.withField key value).before key = t.before key := by
  cases t with
  | mapping entries =>
    have hsame : ∀ entry ∈ entriesBefore entries key,
        (entry.1, if entry.1 = key then value else entry.2) = id entry := by
      intro entry hentry
      have hne : entry.1 ≠ key := by simpa using List.mem_takeWhile_imp hentry
      simp [hne]
    rw [withField, before_mapping, before_mapping, entriesBefore, List.takeWhile_map]
    exact congrArg mapping ((List.map_congr_left hsame).trans (List.map_id _))
  | _ => rfl

/-- A record with another value is a record of the same fields. -/
theorem isRecord_withField {fields : List String} (h : Grammar.IsRecord fields t) :
    Grammar.IsRecord fields (t.withField key value) := by
  obtain ⟨entries, rfl, hnodup, hfields⟩ := h
  have hkeys : (entries.map fun entry =>
      (entry.1, if entry.1 = key then value else entry.2)).map (·.1) = entries.map (·.1) := by
    rw [List.map_map]
    rfl
  refine ⟨_, rfl, ?_, ?_⟩
  · rwa [hkeys]
  · rwa [hkeys]

/-- **Nothing but the objects has changed places.** -/
theorem get?_withObjectOrder_of_ne {d : Tree} (h : k ≠ "objects")
    (s : Equiv.Perm (Fin (d.itemsAt "objects").length)) :
    (d.withObjectOrder s).get? k = d.get? k :=
  get?_withField_of_ne h

theorem before_withObjectOrder {d : Tree} (s : Equiv.Perm (Fin (d.itemsAt "objects").length)) :
    (d.withObjectOrder s).before "objects" = d.before "objects" :=
  before_withField

theorem itemsAt_withObjectOrder {d : Tree} (s : Equiv.Perm (Fin (d.itemsAt "objects").length)) :
    (d.withObjectOrder s).itemsAt "objects" = rearranged (d.itemsAt "objects") s := by
  have hget : (d.withObjectOrder s).get? "objects" =
      (d.get? "objects").map fun _ => .sequence (rearranged (d.itemsAt "objects") s) := by
    rw [withObjectOrder, get?_withField]
    simp
  rw [itemsAt, field, hget]
  cases hobjects : d.get? "objects" with
  | none =>
    -- Without objects there is nothing to put in another order.
    have hempty : d.itemsAt "objects" = [] := by rw [itemsAt, field, hobjects]; rfl
    have hlength : (rearranged (d.itemsAt "objects") s).length = 0 := by
      rw [(rearranged_perm _ s).length_eq, hempty, List.length_nil]
    exact (List.eq_nil_of_length_eq_zero hlength).symm
  | some v => rfl

end Tree

namespace Load

open Grammar

variable {options : LoadOptions} {d : Tree}

/-! ### The grammar does not see the order of objects -/

section Moved

variable (s : Equiv.Perm (Fin (d.itemsAt "objects").length))

/-- The names of the objects, in the other order. -/
theorem namesAt_withObjectOrder :
    (d.withObjectOrder s).namesAt "objects" =
      (rearranged (d.itemsAt "objects") s).map Tree.declaredName := by
  rw [Tree.namesAt, Tree.itemsAt_withObjectOrder]

theorem namesAt_withObjectOrder_perm :
    ((d.withObjectOrder s).namesAt "objects").Perm (d.namesAt "objects") := by
  rw [namesAt_withObjectOrder]
  exact (rearranged_perm _ s).map _

theorem getElem?_namesAt_withObjectOrder (i : Nat) :
    ((d.withObjectOrder s).namesAt "objects")[positionUnder s i]? = (d.namesAt "objects")[i]? := by
  rw [namesAt_withObjectOrder, List.getElem?_map, getElem?_rearranged, Tree.namesAt,
    List.getElem?_map]

/-- **A name is found where its object has gone.** -/
theorem idxOf_withObjectOrder (hnames : (d.namesAt "objects").Nodup) {name : String}
    (h : name ∈ d.namesAt "objects") :
    ((d.withObjectOrder s).namesAt "objects").idxOf name =
      positionUnder s ((d.namesAt "objects").idxOf name) := by
  have hperm := namesAt_withObjectOrder_perm s
  have hfound := getElem?_namesAt_withObjectOrder s ((d.namesAt "objects").idxOf name)
  rw [List.getElem?_idxOf h] at hfound
  exact (idxOf_eq_iff (hperm.nodup_iff.mpr hnames) hfound (hperm.mem_iff.mpr h)).mpr rfl

theorem visibleTypes_withObjectOrder : visibleTypes (d.withObjectOrder s) = visibleTypes d := by
  rw [visibleTypes, visibleTypes, Tree.before_withObjectOrder]

/-- **The grammar accepts the objects in any order.** -/
theorem isDefinition_withObjectOrder (hd : IsDefinition options d) :
    IsDefinition options (d.withObjectOrder s) := by
  have hget : ∀ {k}, k ≠ "objects" → (d.withObjectOrder s).get? k = d.get? k :=
    fun h => Tree.get?_withObjectOrder_of_ne h s
  have hperm := rearranged_perm (d.itemsAt "objects") s
  have hnames := namesAt_withObjectOrder_perm s
  have hobjects : Requires (d.withObjectOrder s) "objects"
      (IsNonemptySequenceOf fun _ => True) := by
    obtain ⟨v, hv, -⟩ := hd.objects
    refine ⟨.sequence (rearranged (d.itemsAt "objects") s), ?_, ⟨_, rfl, fun _ _ => trivial⟩, ?_⟩
    · rw [Tree.withObjectOrder, Tree.get?_withField, hv]
      rfl
    · intro hempty
      change rearranged (d.itemsAt "objects") s = [] at hempty
      rw [hempty] at hperm
      exact hd.objects.itemsAt_ne_nil hperm.symm.eq_nil
  exact {
    fields := Tree.isRecord_withField hd.fields
    name := (requires_congr (hget (by decide))).mpr hd.name
    dataTypes := (allows_congr (hget (by decide))).mpr hd.dataTypes
    typeNames := by
      rw [Reading.typeNames, Tree.namesAt_congr (hget (by decide))]
      exact hd.typeNames
    attributes := (allows_congr (hget (by decide))).mpr hd.attributes
    objects := by
      refine requires_nonempty_iff.mpr ⟨hobjects, fun t ht => ?_⟩
      rw [Tree.itemsAt_withObjectOrder] at ht
      rw [visibleTypes_withObjectOrder]
      -- Links name any object, and the names of the objects are the same ones.
      exact (hd.objects.forall_mem_itemsAt t (hperm.mem_iff.mp ht)).mono (List.Subset.refl _)
        hnames.symm.subset
    objectNames := hnames.nodup_iff.mpr hd.objectNames
    files := (requires_congr (hget (by decide))).mpr hd.files }

/-! ### What is read of an object that has moved -/

/-- **A link follows its source and its target.** -/
theorem link_withObjectOrder (hnames : (d.namesAt "objects").Nodup) {i : Nat} {t : Tree}
    (ht : IsLink (d.namesAt "objects") t) :
    Reading.link ((d.withObjectOrder s).namesAt "objects") (positionUnder s i) t =
      (Reading.link (d.namesAt "objects") i t).renumbered (positionUnder s) := by
  rw [Reading.link, Reading.link, Link.renumbered,
    idxOf_withObjectOrder s hnames ht.target.textAt_mem]

theorem links_withObjectOrder (hnames : (d.namesAt "objects").Nodup) {i : Nat} {t : Tree}
    (ht : HasLinks (d.namesAt "objects") t) :
    Reading.links ((d.withObjectOrder s).namesAt "objects") (positionUnder s i) t =
      (Reading.links (d.namesAt "objects") i t).map (Link.renumbered (positionUnder s)) := by
  rw [Reading.links, Reading.links, List.map_map]
  exact List.map_congr_left fun u hu =>
    link_withObjectOrder s hnames (ht.links.forall_mem_itemsAt u hu)

omit s in
/-- The keys of an index speak of its own object, which has moved. -/
theorem keyReference_renumbered (σ : Nat → Nat) (i : Nat) (properties links : List String)
    (t : Tree) : Reading.keyReference (σ i) properties links t =
      (Reading.keyReference i properties links t).renumbered σ := by
  rw [Reading.keyReference, Reading.keyReference]
  cases t.get? "property" <;> rfl

/-- **Indexes follow their object**, and so do their keys. -/
theorem indexes_renumbered (σ : Nat → Nat) (i : Nat) (t : Tree) :
    Reading.indexes (σ i) t = (Reading.indexes i t).map (Index.renumbered σ) := by
  have hkey : ∀ properties links position isLast u,
      Reading.indexKey (σ i) properties links position isLast u =
        (Reading.indexKey i properties links position isLast u).renumbered σ := by
    intro properties links position isLast u
    rw [Reading.indexKey, Reading.indexKey, IndexKey.renumbered, keyReference_renumbered]
  rw [Reading.indexes, Reading.indexes, List.map_map]
  refine List.map_congr_left fun u _ => ?_
  rw [Function.comp_apply, Index.renumbered, Reading.index, Reading.index, Reading.marked,
    Reading.marked, List.map_map]
  exact congrArg (Index.mk _ _ · _) (List.map_congr_left fun x _ => hkey _ _ _ _ _)

/-- **Reverse links follow their sources**, and come in the order that the sources have
now. -/
theorem reverseLinks_withObjectOrder (target : String) :
    (Reading.reverseLinks ((d.withObjectOrder s).itemsAt "objects") target).Perm
      ((Reading.reverseLinks (d.itemsAt "objects") target).map
        (LinkHandle.renumbered (positionUnder s))) := by
  rw [Tree.itemsAt_withObjectOrder, Reading.reverseLinks, Reading.reverseLinks, List.map_flatMap]
  -- Source by source, the links that are listed are the same; only the sources are numbered anew.
  refine ((zipIdx_rearranged_perm _ s).flatMap_right _).trans (List.Perm.of_eq ?_)
  rw [List.flatMap_map]
  refine List.flatMap_congr fun x _ => ?_
  rw [List.map_map]
  rfl

/-- **An object that has moved**: the same but for the positions in it. -/
theorem object_withObjectOrder (hd : IsDefinition options d) {i : Nat} {t : Tree}
    (ht : t ∈ d.itemsAt "objects") :
    ((Reading.object d i t).renumbered (positionUnder s)).SameButOrder
      (Reading.object (d.withObjectOrder s) (positionUnder s i) t) := by
  have htypes : Reading.typeNames (d.withObjectOrder s) = Reading.typeNames d := by
    rw [Reading.typeNames, Reading.typeNames,
      Tree.namesAt_congr (Tree.get?_withObjectOrder_of_ne (by decide) s)]
  have hlinks := (hd.objects.forall_mem_itemsAt t ht).toHasLinks
  refine ⟨?_, reverseLinks_withObjectOrder s t.declaredName⟩
  rw [Reading.object, Reading.object, Object.renumbered, htypes,
    links_withObjectOrder s hd.objectNames hlinks, indexes_renumbered]

end Moved

/-- **Putting the objects of a definition in another order renumbers the project.** It loads
again, and every object is found where it was moved to, with all references to objects renumbered
and only its reverse links perhaps in another order. -/
theorem load_withObjectOrder {p : Project} (h : load options d = .ok p)
    (s : Equiv.Perm (Fin (d.itemsAt "objects").length)) :
    ∃ q, load options (d.withObjectOrder s) = .ok q ∧ q.IsRenumberingOf (positionUnder s) p := by
  obtain ⟨hd, rfl⟩ := (load_yields options d p).mp h
  have hget : ∀ {k}, k ≠ "objects" → (d.withObjectOrder s).get? k = d.get? k :=
    fun h => Tree.get?_withObjectOrder_of_ne h s
  have htypes : (d.withObjectOrder s).itemsAt "datatypes" = d.itemsAt "datatypes" :=
    Tree.itemsAt_congr (hget (by decide))
  have hfiles : (d.withObjectOrder s).itemsAt "files" = d.itemsAt "files" :=
    Tree.itemsAt_congr (hget (by decide))
  refine ⟨_, (load_yields _ _).eq_ok (isDefinition_withObjectOrder s hd), ?_⟩
  exact {
    name := Tree.textAt_congr (hget (by decide))
    attributes := congrArg Reading.attributes (Tree.field_congr (hget (by decide)))
    dataTypes := congrArg (fun ts : List Tree => builtinDataTypes ++ ts.map Reading.dataType) htypes
    files := congrArg (fun ts : List Tree => ts.map Reading.file) hfiles
    count := by
      rw [Reading.project, Reading.project, List.length_map, List.length_map, List.length_zipIdx,
        List.length_zipIdx, Tree.itemsAt_withObjectOrder, (rearranged_perm _ s).length_eq]
    object := by
      intro i o ho
      rw [getElem?_objects_project, Option.map_eq_some_iff] at ho
      obtain ⟨t, ht, rfl⟩ := ho
      refine ⟨_, ?_, object_withObjectOrder s hd (List.mem_of_getElem? ht)⟩
      rw [getElem?_objects_project, Tree.itemsAt_withObjectOrder, getElem?_rearranged, ht]
      rfl }

/-- The two objects of the shop changed places: the user is the target of the link of the post
and of its own second one, which now come in this order. -/
theorem load_withObjectOrder_shop :
    ∃ s p q, load .default shop = .ok p ∧ load .default (shop.withObjectOrder s) = .ok q ∧
      q.IsRenumberingOf (positionUnder s) p ∧
      q.objects.map (fun o => (o.name, o.reverseLinks)) =
        [("Post", [⟨1, 0⟩]), ("User", [⟨0, 0⟩, ⟨1, 1⟩])] := by
  let s : Equiv.Perm (Fin (shop.itemsAt "objects").length) :=
    Equiv.swap ⟨0, by decide⟩ ⟨1, by decide⟩
  obtain ⟨q, hq, hrenumbered⟩ := load_withObjectOrder load_shop s
  refine ⟨s, _, q, load_shop, hq, hrenumbered, ?_⟩
  obtain ⟨-, rfl⟩ := (load_yields _ _ q).mp hq
  decide +kernel

end Load

end Blueprint
