import Blueprint.Project.Dump
import Blueprint.Project.View
import Blueprint.Proofs.Load.Resolution

/-!
# Every reference of a loaded project leads somewhere

A project refers to its parts by position, and nothing in its type keeps a position from
being out of range. `Blueprint.Project.Intact` says that none is, and that every part is
referred to as belonging to the object that it stands in. Loaded projects are intact
(`Blueprint.Load.load_intact`), and of an intact project every reference can be looked up
(`Blueprint.Project.Total`), so that it has a view and a dump.

Among the references are the reverse links, which the definition does not give but the
loader works out. They are exactly the links that lead to their object, in the order of the
file: `Blueprint.Load.reverseLinks_inverse`.
-/

namespace Blueprint

/-! ### Positions in range -/

/-- What a key refers to belongs to the object at a position. -/
def KeyReference.BelongsTo (i : Nat) (o : Object) : KeyReference → Prop
  | .property h => h.object = i ∧ h.position < o.properties.length
  | .link h => h.object = i ∧ h.position < o.links.length

/-- **An object, at its position, whose references are in range.** -/
structure Object.Intact (p : Project) (i : Nat) (o : Object) : Prop where
  properties : o.properties ≠ []
  types : ∀ q ∈ o.properties, q.dataType < p.dataTypes.length
  sources : ∀ l ∈ o.links, l.source = i
  targets : ∀ l ∈ o.links, l.target < p.objects.length
  reverseLinks : ∀ h ∈ o.reverseLinks, ∃ s, p.objects[h.object]? = some s ∧
    h.position < s.links.length
  owners : ∀ x ∈ o.indexes, x.object = i
  keys : ∀ x ∈ o.indexes, x.keys ≠ []
  references : ∀ x ∈ o.indexes, ∀ k ∈ x.keys, k.reference.BelongsTo i o

/-- **A project whose references are in range**, and that has everything a project must
have. -/
structure Project.Intact (p : Project) : Prop where
  name : p.name ≠ ""
  objects : p.objects ≠ []
  files : p.files ≠ []
  object : ∀ (i : Nat) (o : Object), p.objects[i]? = some o → o.Intact p i

/-! ### Looking references up -/

/-- **A project of which every reference can be looked up**, as its view and its dump do. -/
structure Project.Total (p : Project) : Prop where
  dataType : ∀ o ∈ p.objects, ∀ q ∈ o.properties, (p.dataTypes[q.dataType]?).isSome = true
  source : ∀ o ∈ p.objects, ∀ l ∈ o.links, (p.objectName l.source).isSome = true
  target : ∀ o ∈ p.objects, ∀ l ∈ o.links, (p.objectName l.target).isSome = true
  link : ∀ o ∈ p.objects, ∀ h ∈ o.reverseLinks, (p.link? h).isSome = true
  owner : ∀ o ∈ p.objects, ∀ x ∈ o.indexes, (p.objects[x.object]?).isSome = true
  reference : ∀ o ∈ p.objects, ∀ x ∈ o.indexes, ∀ k ∈ x.keys,
    (p.referenceName k.reference).isSome = true

section Optional

variable {α β : Type}

theorem isSome_bind {x : Option α} {f : α → Option β} (hx : x.isSome = true)
    (hf : ∀ a, x = some a → (f a).isSome = true) : (x >>= f).isSome = true := by
  obtain ⟨a, rfl⟩ := Option.isSome_iff_exists.mp hx
  exact hf a rfl

/-- A list of optional values that are all there. -/
theorem isSome_mapM {f : α → Option β} {xs : List α} (h : ∀ x ∈ xs, (f x).isSome = true) :
    (xs.mapM f).isSome = true := by
  induction xs with
  | nil => rfl
  | cons x xs ih =>
    rw [List.forall_mem_cons] at h
    rw [List.mapM_cons]
    exact isSome_bind h.1 fun _ _ => isSome_bind (ih h.2) fun _ _ => rfl

end Optional

namespace Project

variable {p : Project}

theorem isSome_objectName {i : Nat} (h : i < p.objects.length) :
    (p.objectName i).isSome = true := by
  rw [objectName, Option.isSome_map, List.getElem?_eq_getElem h, Option.isSome_some]

theorem isSome_link? {h : LinkHandle} {s : Object} (hs : p.objects[h.object]? = some s)
    (hlt : h.position < s.links.length) : (p.link? h).isSome = true := by
  rw [link?, hs]
  exact Option.isSome_iff_exists.mpr ⟨_, List.getElem?_eq_getElem hlt⟩

theorem isSome_referenceName {i : Nat} {o : Object} {r : KeyReference}
    (ho : p.objects[i]? = some o) (hr : r.BelongsTo i o) : (p.referenceName r).isSome = true := by
  cases r with
  | property h =>
    obtain ⟨rfl, hlt⟩ := hr
    rw [referenceName, Option.isSome_map, property?, ho]
    exact Option.isSome_iff_exists.mpr ⟨_, List.getElem?_eq_getElem hlt⟩
  | link h =>
    obtain ⟨rfl, hlt⟩ := hr
    rw [referenceName, Option.isSome_map]
    exact isSome_link? ho hlt

/-- A link that is found by its handle is one of an object of the project. -/
theorem mem_links_of_link? {h : LinkHandle} {l : Link} (hl : p.link? h = some l) :
    ∃ o ∈ p.objects, l ∈ o.links := by
  rw [link?, Option.bind_eq_bind, Option.bind_eq_some_iff] at hl
  obtain ⟨o, ho, hl⟩ := hl
  exact ⟨o, List.mem_of_getElem? ho, List.mem_of_getElem? hl⟩

/-- An object stands at a position, and its references are in range there. -/
theorem Intact.exists_position (h : p.Intact) {o : Object} (ho : o ∈ p.objects) :
    ∃ i, p.objects[i]? = some o ∧ o.Intact p i := by
  obtain ⟨i, hi⟩ := List.mem_iff_getElem?.mp ho
  exact ⟨i, hi, h.object i o hi⟩

/-- **The references of an intact project can be looked up.** -/
theorem Intact.total (h : p.Intact) : p.Total where
  dataType o ho q hq := by
    obtain ⟨i, -, hobject⟩ := h.exists_position ho
    rw [List.getElem?_eq_getElem (hobject.types q hq), Option.isSome_some]
  source o ho l hl := by
    obtain ⟨i, hi, hobject⟩ := h.exists_position ho
    rw [hobject.sources l hl]
    exact isSome_objectName (List.getElem?_eq_some_iff.mp hi).1
  target o ho l hl := by
    obtain ⟨i, -, hobject⟩ := h.exists_position ho
    exact isSome_objectName (hobject.targets l hl)
  link o ho k hk := by
    obtain ⟨i, -, hobject⟩ := h.exists_position ho
    obtain ⟨s, hs, hlt⟩ := hobject.reverseLinks k hk
    exact isSome_link? hs hlt
  owner o ho x hx := by
    obtain ⟨i, hi, hobject⟩ := h.exists_position ho
    rw [hobject.owners x hx, hi, Option.isSome_some]
  reference o ho x hx k hk := by
    obtain ⟨i, hi, hobject⟩ := h.exists_position ho
    exact isSome_referenceName hi (hobject.references x hx k hk)

namespace Total

variable (h : p.Total) {o : Object}

include h

/-! ### The view of a project -/

theorem isSome_propertyView (ho : o ∈ p.objects) {q : Property} (hq : q ∈ o.properties) :
    (PropertyView.ofProperty? p q).isSome = true :=
  isSome_bind (h.dataType o ho q hq) fun _ _ => rfl

theorem isSome_linkView (ho : o ∈ p.objects) {l : Link} (hl : l ∈ o.links) :
    (LinkView.ofLink? p l).isSome = true :=
  isSome_bind (h.source o ho l hl) fun _ _ => isSome_bind (h.target o ho l hl) fun _ _ => rfl

theorem isSome_handleView (ho : o ∈ p.objects) {k : LinkHandle} (hk : k ∈ o.reverseLinks) :
    (LinkView.ofHandle? p k).isSome = true := by
  refine isSome_bind (h.link o ho k hk) fun l hl => ?_
  obtain ⟨s, hs, hmem⟩ := mem_links_of_link? hl
  exact h.isSome_linkView hs hmem

theorem isSome_indexView (ho : o ∈ p.objects) {x : Index} (hx : x ∈ o.indexes) :
    (IndexView.ofIndex? p x).isSome = true := by
  refine isSome_bind (isSome_mapM fun k hk => ?_) fun _ _ => rfl
  exact isSome_bind (h.reference o ho x hx k hk) fun _ _ => rfl

theorem isSome_objectView (ho : o ∈ p.objects) : (ObjectView.ofObject? p o).isSome = true :=
  isSome_bind (isSome_mapM fun _ hq => h.isSome_propertyView ho hq) fun _ _ =>
    isSome_bind (isSome_mapM fun _ hl => h.isSome_linkView ho hl) fun _ _ =>
    isSome_bind (isSome_mapM fun _ hk => h.isSome_handleView ho hk) fun _ _ =>
    isSome_bind (isSome_mapM fun _ hx => h.isSome_indexView ho hx) fun _ _ => rfl

/-- **There is a view of the project.** -/
theorem isSome_view : (ProjectView.ofProject? p).isSome = true :=
  isSome_bind (isSome_mapM fun _ ho => h.isSome_objectView ho) fun _ _ => rfl

/-! ### The dump of a project -/

theorem isSome_propertyLine? (ho : o ∈ p.objects) {q : Property} (hq : q ∈ o.properties) :
    (p.propertyLine? q).isSome = true :=
  isSome_bind (h.dataType o ho q hq) fun _ _ => rfl

theorem isSome_linkLine? (ho : o ∈ p.objects) {l : Link} (hl : l ∈ o.links) :
    (p.linkLine? l).isSome = true :=
  isSome_bind (h.target o ho l hl) fun _ _ => rfl

theorem isSome_reverseLinkLine? (ho : o ∈ p.objects) {k : LinkHandle} (hk : k ∈ o.reverseLinks) :
    (p.reverseLinkLine? k).isSome = true := by
  refine isSome_bind (h.link o ho k hk) fun l hl => ?_
  obtain ⟨s, hs, hmem⟩ := mem_links_of_link? hl
  exact isSome_bind (h.source s hs l hmem) fun _ _ => rfl

theorem isSome_indexLines? (ho : o ∈ p.objects) {x : Index} (hx : x ∈ o.indexes) :
    (p.indexLines? x).isSome = true := by
  refine isSome_bind (isSome_mapM fun k hk => ?_) fun _ _ => rfl
  exact isSome_bind (h.reference o ho x hx k hk) fun _ _ => rfl

theorem isSome_objectLines? (ho : o ∈ p.objects) : (p.objectLines? o).isSome = true :=
  isSome_bind (isSome_mapM fun _ hq => h.isSome_propertyLine? ho hq) fun _ _ =>
    isSome_bind (isSome_mapM fun _ hl => h.isSome_linkLine? ho hl) fun _ _ =>
    isSome_bind (isSome_mapM fun _ hk => h.isSome_reverseLinkLine? ho hk) fun _ _ =>
    isSome_bind (isSome_mapM fun _ hx => h.isSome_indexLines? ho hx) fun _ _ => rfl

/-- **There is a dump of the project.** -/
theorem isSome_dumpLines? : p.dumpLines?.isSome = true :=
  isSome_bind (isSome_mapM fun _ ho => h.isSome_objectLines? ho) fun _ _ => rfl

end Total

end Project

namespace Load

open Grammar

variable {options : LoadOptions} {d : Tree} {p : Project}

/-! ### Reverse links -/

/-- **The reverse links of an object** are the handles that lead to its position. -/
theorem reverseLinks_project (hd : IsDefinition options d) {t : Nat} {o : Object}
    (ho : (Reading.project d).objects[t]? = some o) :
    o.reverseLinks = handlesTo (linksOf d) t := by
  rw [← assemble_eq_project hd, getElem?_objects_assemble, Option.map_eq_some_iff] at ho
  obtain ⟨u, -, rfl⟩ := ho
  rfl

theorem link?_project_eq_some_iff {h : LinkHandle} {l : Link} :
    (Reading.project d).link? h = some l ↔
      ∃ row, (linksOf d)[h.object]? = some row ∧ row[h.position]? = some l := by
  rw [Project.link?, Option.bind_eq_bind, Option.bind_eq_some_iff, getElem?_objects_project,
    getElem?_linksOf]
  cases (d.itemsAt "objects")[h.object]? with
  | none => simp
  | some t => simp [Reading.object]

theorem mem_reverseLinks_iff (hd : IsDefinition options d) {t : Nat} {o : Object}
    (ho : (Reading.project d).objects[t]? = some o) {h : LinkHandle} :
    h ∈ o.reverseLinks ↔ ∃ l, (Reading.project d).link? h = some l ∧ l.target = t := by
  rw [reverseLinks_project hd ho, mem_handlesTo_iff]
  constructor
  · rintro ⟨row, l, hrow, hl, htarget⟩
    exact ⟨l, link?_project_eq_some_iff.mpr ⟨row, hrow, hl⟩, htarget⟩
  · rintro ⟨l, hl, htarget⟩
    obtain ⟨row, hrow, hl⟩ := link?_project_eq_some_iff.mp hl
    exact ⟨row, l, hrow, hl, htarget⟩

/-- **Reverse links are the inverse of links**: those of an object are the links whose
target it is, all of them, each once, in the order of the file. -/
theorem reverseLinks_inverse (h : load options d = .ok p) {t : Nat} {o : Object}
    (ho : p.objects[t]? = some o) :
    o.reverseLinks.Pairwise LinkHandle.Before ∧
      ∀ k, k ∈ o.reverseLinks ↔ ∃ l, p.link? k = some l ∧ l.target = t := by
  obtain ⟨hd, rfl⟩ := (load_yields options d p).mp h
  refine ⟨?_, fun k => mem_reverseLinks_iff hd ho⟩
  rw [reverseLinks_project hd ho]
  exact pairwise_handlesTo (linksOf d) t

theorem reverseLinks_inverse_shop : ∃ p o, load .default shop = .ok p ∧ p.objects[0]? = some o ∧
    o.reverseLinks = [⟨0, 1⟩, ⟨1, 0⟩] ∧
    ∀ k, k ∈ o.reverseLinks ↔ ∃ l, p.link? k = some l ∧ l.target = 0 := by
  have hfirst : (Reading.project shop).objects[0]?.map (·.reverseLinks) =
      some [⟨0, 1⟩, ⟨1, 0⟩] := by
    decide +kernel
  obtain ⟨o, ho, hlist⟩ := Option.map_eq_some_iff.mp hfirst
  exact ⟨_, o, load_shop, ho, hlist, (reverseLinks_inverse load_shop ho).2⟩

/-! ### Integrity -/

/-- A type that resolves is in range. -/
theorem dataType_lt_of_resolves {t : Tree} {q : Property} (h : Property.Resolves p t q) :
    q.dataType < p.dataTypes.length := by
  obtain ⟨type, htype, -⟩ := Option.map_eq_some_iff.mp h
  exact (List.getElem?_eq_some_iff.mp htype).1

/-- A target that resolves is in range. -/
theorem target_lt_of_resolves {t : Tree} {l : Link} (h : Link.Resolves p t l) :
    l.target < p.objects.length := by
  obtain ⟨o, ho, -⟩ := Option.map_eq_some_iff.mp h
  exact (List.getElem?_eq_some_iff.mp ho).1

/-- A key refers to a property or a link of the object of its index. -/
theorem keyReference_belongsTo {t u : Tree} (i : Nat)
    (hu : IsIndexKey (t.namesAt "properties") (t.namesAt "links") u) :
    (Reading.keyReference i (t.namesAt "properties") (t.namesAt "links") u).BelongsTo i
      (Reading.object d i t) := by
  obtain ⟨key, name, rfl, ⟨rfl, hname⟩ | ⟨rfl, hname⟩⟩ := hu
  · have hlt := List.idxOf_lt_length_iff.mpr hname.2
    have hlength : (Reading.properties (Reading.typeNames d) t).length =
        (t.namesAt "properties").length := by
      rw [← map_name_properties (Reading.typeNames d), List.length_map]
    exact ⟨rfl, hlt.trans_eq hlength.symm⟩
  · have hlt := List.idxOf_lt_length_iff.mpr hname.2
    have hlength : (Reading.links (d.namesAt "objects") i t).length =
        (t.namesAt "links").length := by
      rw [← map_name_links (d.namesAt "objects") i, List.length_map]
    exact ⟨rfl, hlt.trans_eq hlength.symm⟩

theorem intact_object (hd : IsDefinition options d) {i : Nat} {t : Tree}
    (ht : (d.itemsAt "objects")[i]? = some t) :
    (Reading.object d i t).Intact (Reading.project d) i := by
  have ho : (Reading.project d).objects[i]? = some (Reading.object d i t) := by
    rw [getElem?_objects_project, ht, Option.map_some]
  have hobject := hd.objects.forall_mem_itemsAt t (List.mem_of_getElem? ht)
  have hindex := hobject.indexes.forall_mem_itemsAt
  exact {
    properties := by
      change Reading.properties (Reading.typeNames d) t ≠ []
      rw [Reading.properties, ne_eq, marked_eq_nil_iff]
      exact hobject.properties.itemsAt_ne_nil
    types := by
      intro q hq
      obtain ⟨x, hx, rfl⟩ := List.mem_map.mp hq
      exact dataType_lt_of_resolves (property_resolves _
        (hobject.properties.forall_mem_itemsAt x.1 (List.fst_mem_of_mem_zipIdx hx)))
    sources := by
      intro l hl
      obtain ⟨u, -, rfl⟩ := List.mem_map.mp hl
      rfl
    targets := by
      intro l hl
      obtain ⟨u, hu, rfl⟩ := List.mem_map.mp hl
      exact target_lt_of_resolves (link_resolves i (hobject.links.forall_mem_itemsAt u hu))
    reverseLinks := by
      intro h hh
      obtain ⟨l, hl, -⟩ := (mem_reverseLinks_iff hd ho).mp hh
      rw [Project.link?, Option.bind_eq_bind, Option.bind_eq_some_iff] at hl
      obtain ⟨s, hs, hl⟩ := hl
      exact ⟨s, hs, (List.getElem?_eq_some_iff.mp hl).1⟩
    owners := by
      intro x hx
      obtain ⟨u, -, rfl⟩ := List.mem_map.mp hx
      rfl
    keys := by
      intro x hx
      obtain ⟨u, hu, rfl⟩ := List.mem_map.mp hx
      change Reading.marked _ (u.itemsAt "keys") ≠ []
      exact fun h => (hindex u hu).keys.itemsAt_ne_nil (marked_eq_nil_iff.mp h)
    references := by
      intro x hx k hk
      obtain ⟨u, hu, rfl⟩ := List.mem_map.mp hx
      obtain ⟨y, hy, rfl⟩ := List.mem_map.mp hk
      exact keyReference_belongsTo i
        ((hindex u hu).keys.forall_mem_itemsAt y.1 (List.fst_mem_of_mem_zipIdx hy)) }

/-- **The project of a definition is intact.** -/
theorem intact_project (hd : IsDefinition options d) : (Reading.project d).Intact where
  name := hd.name.textAt_ne_empty
  objects h := hd.objects.itemsAt_ne_nil (List.zipIdx_eq_nil_iff.mp (List.map_eq_nil_iff.mp h))
  files h := hd.files.itemsAt_ne_nil (List.map_eq_nil_iff.mp h)
  object i o ho := by
    rw [getElem?_objects_project, Option.map_eq_some_iff] at ho
    obtain ⟨t, ht, rfl⟩ := ho
    exact intact_object hd ht

/-- **A loaded project is intact**, so that every reference in it can be looked up, and it
has a view and a dump. -/
theorem load_intact (h : load options d = .ok p) :
    p.Intact ∧ p.Total ∧ (ProjectView.ofProject? p).isSome = true ∧ p.dumpLines?.isSome = true := by
  obtain ⟨hd, rfl⟩ := (load_yields options d p).mp h
  have hintact := intact_project hd
  exact ⟨hintact, hintact.total, hintact.total.isSome_view, hintact.total.isSome_dumpLines?⟩

theorem load_intact_shop :
    ∃ p, load .default shop = .ok p ∧ p.Intact ∧ p.dumpLines?.isSome = true :=
  ⟨_, load_shop, (load_intact load_shop).1, (load_intact load_shop).2.2.2⟩

end Load

end Blueprint
