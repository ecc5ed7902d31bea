import Blueprint.Proofs.Load.Acceptance

/-!
# Names resolve

The references of a loaded project are positions. `Blueprint.NamesResolve` says that they
are the right ones: what stands at the position of a type, of a target or of a key bears
the name that the definition gives there. Together with the reading of the definition this
is `Blueprint.Load.load_faithful`.
-/

namespace Blueprint

open Grammar

/-! ### References against the names they stand for -/

/-- The type of a property bears the name that the property gives. -/
def Property.Resolves (p : Project) (t : Tree) (q : Property) : Prop :=
  (p.dataTypes[q.dataType]?).map (·.name) = some (t.textAt "type")

/-- The target of a link bears the name that the link gives. -/
def Link.Resolves (p : Project) (t : Tree) (l : Link) : Prop :=
  p.objectName l.target = some (t.textAt "target")

/-- What a key refers to is of the kind of its field, and bears the name that stands
there. -/
def IndexKey.Resolves (p : Project) (t : Tree) (k : IndexKey) : Prop :=
  ∃ v, t.get? k.reference.kind.text = some v ∧ p.referenceName k.reference = some v.trimmed

/-- The keys of an index resolve, one by one. -/
def Index.Resolves (p : Project) (t : Tree) (x : Index) : Prop :=
  List.Forall₂ (IndexKey.Resolves p) (t.itemsAt "keys") x.keys

/-- All references of an object resolve, item by item. -/
structure Object.Resolves (p : Project) (t : Tree) (o : Object) : Prop where
  properties : List.Forall₂ (Property.Resolves p) (t.itemsAt "properties") o.properties
  links : List.Forall₂ (Link.Resolves p) (t.itemsAt "links") o.links
  indexes : List.Forall₂ (Index.Resolves p) (t.itemsAt "indexes") o.indexes

/-- **All references of a project resolve to the names that its definition gives.** -/
def NamesResolve (d : Tree) (p : Project) : Prop :=
  List.Forall₂ (Object.Resolves p) (d.itemsAt "objects") p.objects

namespace Load

/-- Two lists made of the same items agree as the items do. -/
theorem forall₂_zipIdx_map {β : Type} {R : Tree → β → Prop} {f : Tree × Nat → β} {ts : List Tree}
    {n : Nat} (h : ∀ x ∈ ts.zipIdx n, R x.1 (f x)) : List.Forall₂ R ts ((ts.zipIdx n).map f) := by
  have hsame : List.Forall₂ R ((ts.zipIdx n).map Prod.fst) ((ts.zipIdx n).map f) := by
    rw [List.forall₂_map_left_iff, List.forall₂_map_right_iff, List.forall₂_same]
    exact h
  rwa [List.zipIdx_map_fst] at hsame

theorem forall₂_map {β : Type} {R : Tree → β → Prop} {f : Tree → β} {ts : List Tree}
    (h : ∀ t ∈ ts, R t (f t)) : List.Forall₂ R ts (ts.map f) := by
  rw [List.forall₂_map_right_iff, List.forall₂_same]
  exact h

/-! ### Looking positions up in the project that a definition describes -/

section Lookup

variable {d t : Tree} {i : Nat}

theorem dataTypeName_project {name : String} (h : name ∈ Reading.typeNames d) :
    (Reading.project d).dataTypes[(Reading.typeNames d).idxOf name]?.map (·.name) =
      some name := by
  rw [← List.getElem?_map]
  change ((typesOf d).map (·.name))[(Reading.typeNames d).idxOf name]? = some name
  rw [map_name_typesOf, List.getElem?_idxOf h]

theorem objectName_project (d : Tree) (i : Nat) :
    (Reading.project d).objectName i = (d.namesAt "objects")[i]? := by
  rw [Project.objectName, getElem?_objects_project, Option.map_map, Tree.namesAt,
    List.getElem?_map]
  rfl

theorem propertyName_project (ht : (d.itemsAt "objects")[i]? = some t) (j : Nat) :
    (Reading.project d).referenceName (.property ⟨i, j⟩) = (t.namesAt "properties")[j]? := by
  rw [Project.referenceName, Project.property?, getElem?_objects_project, ht, ← map_name_properties,
    List.getElem?_map]
  rfl

theorem linkName_project (ht : (d.itemsAt "objects")[i]? = some t) (j : Nat) :
    (Reading.project d).referenceName (.link ⟨i, j⟩) = (t.namesAt "links")[j]? := by
  rw [Project.referenceName, Project.link?, getElem?_objects_project, ht, ← map_name_links,
    List.getElem?_map]
  rfl

end Lookup

/-! ### References of a definition -/

section References

variable {options : LoadOptions} {d t : Tree} {i : Nat}

theorem property_resolves (isLast : Bool) (ht : IsProperty (visibleTypes d) t) :
    Property.Resolves (Reading.project d) t
      (Reading.property (Reading.typeNames d) isLast t) :=
  dataTypeName_project ((visibleTypes_initial d).subset ht.type.textAt_mem)

theorem link_resolves (source : Nat) (ht : IsLink (d.namesAt "objects") t) :
    Link.Resolves (Reading.project d) t (Reading.link (d.namesAt "objects") source t) := by
  rw [Link.Resolves, objectName_project]
  exact List.getElem?_idxOf ht.target.textAt_mem

theorem indexKey_resolves {u : Tree} (ht : (d.itemsAt "objects")[i]? = some t)
    (hu : IsIndexKey (t.namesAt "properties") (t.namesAt "links") u) (position : Nat)
    (isLast : Bool) :
    IndexKey.Resolves (Reading.project d) u (Reading.indexKey i (t.namesAt "properties")
      (t.namesAt "links") position isLast u) := by
  obtain ⟨key, name, rfl, ⟨rfl, hname⟩ | ⟨rfl, hname⟩⟩ := hu
  · refine ⟨name, rfl, ?_⟩
    exact (propertyName_project ht _).trans (List.getElem?_idxOf hname.2)
  · refine ⟨name, rfl, ?_⟩
    exact (linkName_project ht _).trans (List.getElem?_idxOf hname.2)

theorem object_resolves (ht : (d.itemsAt "objects")[i]? = some t)
    (hobject : IsObject options (visibleTypes d) (d.namesAt "objects") t) :
    Object.Resolves (Reading.project d) t (Reading.object d i t) where
  properties := forall₂_zipIdx_map fun x hx => property_resolves _
    (hobject.properties.forall_mem_itemsAt x.1 (List.fst_mem_of_mem_zipIdx hx))
  links := forall₂_map fun u hu => link_resolves i (hobject.links.forall_mem_itemsAt u hu)
  indexes := forall₂_map fun u hu => forall₂_zipIdx_map fun x hx => indexKey_resolves ht
    ((hobject.indexes.forall_mem_itemsAt u hu).keys.forall_mem_itemsAt x.1
      (List.fst_mem_of_mem_zipIdx hx)) _ _

/-- **The references of a definition resolve.** -/
theorem namesResolve_project (hd : IsDefinition options d) :
    NamesResolve d (Reading.project d) :=
  forall₂_zipIdx_map fun x hx => object_resolves (List.mem_zipIdx_iff_getElem?.mp hx)
    (hd.objects.forall_mem_itemsAt x.1 (List.fst_mem_of_mem_zipIdx hx))

end References

/-- **Loading is faithful**: the project is what the definition says, read off field by
field, and its references lead to the entities of the names given. -/
theorem load_faithful {options : LoadOptions} {d : Tree} {p : Project}
    (h : load options d = .ok p) : p = Reading.project d ∧ NamesResolve d p := by
  obtain ⟨hd, rfl⟩ := (load_yields options d p).mp h
  exact ⟨rfl, namesResolve_project hd⟩

theorem load_faithful_shop :
    load .default shop = .ok (Reading.project shop) ∧ NamesResolve shop (Reading.project shop) :=
  ⟨load_shop, (load_faithful load_shop).2⟩

end Load

end Blueprint
