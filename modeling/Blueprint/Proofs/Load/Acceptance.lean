import Blueprint.Proofs.Load.Connection
import Blueprint.Proofs.Load.Indexes

/-!
# What the loader accepts, and what it answers

The three passes put together. A definition passes all of them exactly when it belongs to
the grammar, and the project that is assembled from what they have read is the one that the
definition describes: `Blueprint.Load.load_yields`.

Two things are left to compare. The loader looks the type of a property up among the types
declared before the objects, and the reading among all of them, which makes no difference to
a name that is found. The loader collects the handles that lead to an object by position,
and the reading by name, which makes none because the names of objects are distinct.
-/

namespace Blueprint

namespace Load

open Grammar

/-! ### Types declared before the objects -/

/-- The types that a property may have come first among all types. -/
theorem visibleTypes_initial (d : Tree) : visibleTypes d <+: Reading.typeNames d := by
  rw [visibleTypes, Reading.typeNames, List.prefix_append_right_inj, Tree.namesAt, Tree.itemsAt,
    Tree.field, Tree.namesAt, Tree.itemsAt, Tree.field]
  cases h : (d.before "objects").get? "datatypes" with
  | none => exact List.nil_prefix
  | some v => exact ⟨[], by rw [List.append_nil, Tree.get?_of_get?_before h]⟩

/-- A visible type has one position, among the visible types and among all. -/
theorem idxOf_typeNames {d : Tree} {name : String} (h : name ∈ visibleTypes d) :
    (Reading.typeNames d).idxOf name = (visibleTypes d).idxOf name := by
  obtain ⟨rest, hrest⟩ := visibleTypes_initial d
  rw [← hrest, List.idxOf_append_of_mem h]

/-- Properties of visible types are read alike against all types. -/
theorem properties_typeNames {d t : Tree}
    (h : ∀ u ∈ t.itemsAt "properties", IsProperty (visibleTypes d) u) :
    Reading.properties (Reading.typeNames d) t = Reading.properties (visibleTypes d) t := by
  refine List.map_congr_left fun x hx => ?_
  have hproperty := h x.1 (List.fst_mem_of_mem_zipIdx hx)
  dsimp only [Reading.property]
  rw [idxOf_typeNames hproperty.type.textAt_mem]

/-! ### Targets by name -/

/-- Among distinct names a name stands at one position alone. -/
theorem idxOf_eq_iff {names : List String} {name a : String} {i : Nat} (hnames : names.Nodup)
    (hi : names[i]? = some name) (ha : a ∈ names) : names.idxOf a = i ↔ a = name := by
  constructor
  · rintro rfl
    exact Option.some.inj ((List.getElem?_idxOf ha).symm.trans hi)
  · rintro rfl
    obtain ⟨hlt, rfl⟩ := List.getElem?_eq_some_iff.mp hi
    exact hnames.idxOf_getElem i hlt

/-- The links of one object that lead to the object of a name. -/
theorem rowHandles_links {names : List String} {name : String} {i : Nat} (hnames : names.Nodup)
    (hi : names[i]? = some name) (source : Nat) {t : Tree} (ht : HasLinks names t) :
    rowHandles i source (Reading.links names source t) =
      ((t.itemsAt "links").zipIdx.filter fun x => x.1.textAt "target" == name).map
        fun x => ⟨source, x.2⟩ := by
  have htarget : ∀ x ∈ (t.itemsAt "links").zipIdx,
      ((Reading.link names source x.1).target == i) = (x.1.textAt "target" == name) := by
    intro x hx
    have hlink : IsLink names x.1 :=
      ht.links.forall_mem_itemsAt x.1 (List.fst_mem_of_mem_zipIdx hx)
    rw [Bool.eq_iff_iff, beq_iff_eq, beq_iff_eq]
    exact idxOf_eq_iff hnames hi hlink.target.textAt_mem
  rw [rowHandles, Reading.links, List.zipIdx_map, List.filter_map, List.map_map]
  exact congrArg (List.map _) (List.filter_congr htarget)

/-- **The handles that lead to an object**, by position and by name. -/
theorem handlesTo_linksOf {d t : Tree} {i : Nat} (hnames : (d.namesAt "objects").Nodup)
    (hlinks : ∀ t ∈ d.itemsAt "objects", HasLinks (d.namesAt "objects") t)
    (ht : (d.itemsAt "objects")[i]? = some t) :
    handlesTo (linksOf d) i = Reading.reverseLinks (d.itemsAt "objects") t.declaredName := by
  have hi : (d.namesAt "objects")[i]? = some t.declaredName := by
    rw [Tree.namesAt, List.getElem?_map, ht, Option.map_some]
  rw [handlesTo, linksOf, List.zipIdx_map, zipIdx_zipIdx, List.map_map, List.flatMap_map]
  exact List.flatMap_congr fun x hx =>
    rowHandles_links hnames hi x.2 (hlinks x.1 (List.fst_mem_of_mem_zipIdx hx))

/-! ### Assembling -/

/-- Nothing is linked to the objects of the first pass. -/
theorem wired_unlinked (objects : List ObjectOutline) :
    wired (objects.map unlinked) [] = objects.map unlinked := by
  refine List.ext_getElem? fun i => ?_
  rw [getElem?_wired, List.getElem?_map]
  cases objects[i]? <;> rfl

theorem getElem?_linksOf (d : Tree) (i : Nat) : (linksOf d)[i]? =
    (d.itemsAt "objects")[i]?.map fun t => Reading.links (d.namesAt "objects") i t := by
  rw [linksOf, List.getElem?_map, List.getElem?_zipIdx, Option.map_map, Nat.zero_add]
  rfl

theorem areRows_linksOf (d : Tree) : AreRows (linksOf d) := by
  intro x hx l hl
  rw [List.mem_zipIdx_iff_getElem?, getElem?_linksOf, Option.map_eq_some_iff] at hx
  obtain ⟨t, -, ht⟩ := hx
  rw [← ht] at hl
  obtain ⟨u, -, rfl⟩ := List.mem_map.mp hl
  rfl

/-- An object as it is assembled. -/
def assembled (d : Tree) (i : Nat) (t : Tree) : Object where
  name := t.declaredName
  properties := Reading.properties (visibleTypes d) t
  links := Reading.links (d.namesAt "objects") i t
  reverseLinks := handlesTo (linksOf d) i
  indexes := Reading.indexes i t
  attributes := Reading.attributesOf t

/-- **The objects of an assembled project**, one for each fragment. -/
theorem getElem?_objects_assemble (d : Tree) (i : Nat) :
    (assemble (outlineOf d) (linksOf d) (indexesOf d)).objects[i]? =
      (d.itemsAt "objects")[i]?.map (assembled d i) := by
  have hlength : (linksOf d).length ≤ ((outlineOf d).objects.map unlinked).length := by
    rw [linksOf, outlineOf, List.length_map, List.length_zipIdx, List.length_map, List.length_map]
  have hwired := connectAll_flatten (areRows_linksOf d) hlength
  -- Objects, links and indexes are lists over the same numbered fragments.
  rw [wired_unlinked] at hwired
  rw [assemble, hwired, List.getElem?_zipWith', getElem?_wired, outlineOf, List.getElem?_map,
    List.getElem?_map, indexesOf, List.getElem?_map, List.getElem?_zipIdx, Nat.zero_add,
    List.getD_eq_getElem?_getD, getElem?_linksOf]
  cases (d.itemsAt "objects")[i]? with
  | none => rfl
  | some t => rfl

/-- The objects of the project that a definition describes. -/
theorem getElem?_objects_project (d : Tree) (i : Nat) : (Reading.project d).objects[i]? =
    (d.itemsAt "objects")[i]?.map (Reading.object d i) := by
  rw [Reading.project, List.getElem?_map, List.getElem?_zipIdx, Nat.zero_add, Option.map_map]
  rfl

/-- **What is assembled is what the definition describes.** -/
theorem assemble_eq_project {options : LoadOptions} {d : Tree} (hd : IsDefinition options d) :
    assemble (outlineOf d) (linksOf d) (indexesOf d) = Reading.project d := by
  have hobject : ∀ t ∈ d.itemsAt "objects",
      IsObject options (visibleTypes d) (d.namesAt "objects") t :=
    hd.objects.forall_mem_itemsAt
  have hobjects : (assemble (outlineOf d) (linksOf d) (indexesOf d)).objects =
      (Reading.project d).objects := by
    refine List.ext_getElem? fun i => ?_
    rw [getElem?_objects_assemble, getElem?_objects_project]
    cases ht : (d.itemsAt "objects")[i]? with
    | none => rfl
    | some t =>
      have hmem := List.mem_of_getElem? ht
      have hproperties := properties_typeNames (hobject t hmem).properties.forall_mem_itemsAt
      have hreverse := handlesTo_linksOf hd.objectNames
        (fun u hu => (hobject u hu).toHasLinks) ht
      refine congrArg some ?_
      rw [assembled, ← hproperties, hreverse]
      rfl
  calc assemble (outlineOf d) (linksOf d) (indexesOf d)
      = { Reading.project d with
          objects := (assemble (outlineOf d) (linksOf d) (indexesOf d)).objects } := rfl
    _ = Reading.project d := by rw [hobjects]

/-- What the three passes ask, put together. -/
theorem isDefinition_iff {options : LoadOptions} {d : Tree} :
    IsDefinition options d ↔ IsOutlined d ∧
      (∀ t ∈ d.itemsAt "objects", HasLinks (d.namesAt "objects") t) ∧
      ∀ t ∈ d.itemsAt "objects", HasIndexes options t := by
  constructor
  · intro h
    have hobject := h.objects.forall_mem_itemsAt
    have houtline : Requires d "objects" (IsNonemptySequenceOf (IsOutline (visibleTypes d))) :=
      requires_nonempty_iff.mpr ⟨(requires_nonempty_iff.mp h.objects).1,
        fun t ht => (hobject t ht).toIsOutline⟩
    exact ⟨⟨h.fields, h.name, h.dataTypes, h.typeNames, h.attributes, houtline, h.objectNames,
      h.files⟩, fun t ht => (hobject t ht).toHasLinks, fun t ht => (hobject t ht).toHasIndexes⟩
  · rintro ⟨h, hlinks, hindexes⟩
    obtain ⟨hobjects, houtlines⟩ := requires_nonempty_iff.mp h.objects
    have hall : ∀ t ∈ d.itemsAt "objects",
        IsObject options (visibleTypes d) (d.namesAt "objects") t :=
      fun t ht => ⟨houtlines t ht, hlinks t ht, hindexes t ht⟩
    exact ⟨h.fields, h.name, h.dataTypes, h.typeNames, h.attributes,
      requires_nonempty_iff.mpr ⟨hobjects, hall⟩, h.objectNames, h.files⟩

/-- **Loading.** A definition is accepted exactly when it belongs to the grammar, and the
answer is the project that it describes. -/
theorem load_yields (options : LoadOptions) (d : Tree) :
    Yields (load options d) (IsDefinition options d) (Reading.project d) := by
  refine ((outline_yields d).bind fun _ => (links_yields d).bind fun _ =>
    (indexes_yields options d).bind fun _ =>
    Yields.pure (assemble (outlineOf d) (linksOf d) (indexesOf d))).congr ?_ assemble_eq_project
  rw [isDefinition_iff, and_true]

/-- **The loader accepts the grammar of definitions and nothing else.** -/
theorem load_succeeds_iff (options : LoadOptions) (d : Tree) :
    (∃ p, load options d = .ok p) ↔ IsDefinition options d :=
  (load_yields options d).exists_eq_ok_iff

/-- A definition with the things that need care: blanks around names, a type of its own, two
properties of one name, a link to its own object and one to an object declared later. -/
def shop : Tree := .mapping [
  ("name", .string " shop "),
  ("datatypes", .sequence [.mapping [("name", .string "status"), ("type", .string "enumeration"),
    ("values", .sequence [.string "open", .mapping [("value", .string " closed")]])]]),
  ("objects", .sequence [
    .mapping [("name", .string "User"),
      ("links", .sequence [
        .mapping [("name", .string "best"), ("target", .string " Post")],
        .mapping [("name", .string "boss"), ("target", .string "User"),
          ("mandatory", .boolean false)]]),
      ("properties", .sequence [
        .mapping [("name", .string "id"), ("type", .string "id")],
        .mapping [("type", .string "status"), ("name", .string "id")]]),
      ("indexes", .sequence [.mapping [("name", .string "main"), ("keys", .sequence [
        .mapping [("property", .string "id")], .mapping [("link", .string "best ")]])]])],
    .mapping [("name", .string "Post"),
      ("properties", .sequence [.mapping [("name", .string "id"), ("type", .string "id")]]),
      ("links", .sequence [.mapping [("name", .string "author"), ("target", .string "User")]])]]),
  ("files", .sequence [.mapping [("scope", .string "object"), ("input", .string "model.hbs"),
    ("output", .string "model.txt")]])]

theorem load_shop : load .default shop = .ok (Reading.project shop) := by
  decide +kernel

end Load

end Blueprint
