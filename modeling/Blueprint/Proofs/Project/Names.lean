import Blueprint.Proofs.Load.Resolution

/-!
# Names of a loaded project

Inside a project everything is referred to by position, but outside of it by name, so names
have to be good enough to find things by. In a loaded project they are: every name is a word
without blanks, and names that have to tell things apart do (`Blueprint.Project.WellNamed`).
So looking a name up comes back to the position that it was read off
(`Blueprint.Project.LooksUp`).

| names | differ |
|---|---|
| of objects | in the project |
| of data types | in the project, from the built-in ones too |
| of links | in their object |
| of indexes | in their object, if the options ask for it |
| of attributes | in their map |
| of properties | not necessarily |

The last line is the catch. An index key names a property, and there may be several of that
name; the key means the first one, and so does everybody who looks the name up.
-/

namespace Blueprint

open Grammar

/-! ### Good names -/

/-- **A name**: not empty, and no blank in it. -/
def IsName (s : String) : Prop := s ≠ "" ∧ hasBlank s = false

/-- Attributes whose names are names, each of them once. -/
structure AttributeMap.WellNamed (m : AttributeMap) : Prop where
  names : ∀ entry ∈ m.entries, IsName entry.1
  distinct : (m.entries.map (·.1)).Nodup

/-- A data type with a name, and with no value twice. -/
structure DataType.WellNamed (t : DataType) : Prop where
  name : IsName t.name
  values : t.values.Nodup

/-- A property with a name, and with good names for its attributes. -/
structure Property.WellNamed (q : Property) : Prop where
  name : IsName q.name
  attributes : q.attributes.WellNamed

/-- **An object whose parts have good names.** Nothing is said of two properties of one name. -/
structure Object.WellNamed (options : LoadOptions) (o : Object) : Prop where
  name : IsName o.name
  properties : ∀ q ∈ o.properties, q.WellNamed
  links : ∀ l ∈ o.links, IsName l.name
  linkNames : (o.links.map (·.name)).Nodup
  indexes : ∀ x ∈ o.indexes, IsName x.name
  indexNames : options.uniqueIndexNames = true → (o.indexes.map (·.name)).Nodup
  attributes : o.attributes.WellNamed

/-- **A project whose parts have good names**, different where they have to be. -/
structure Project.WellNamed (options : LoadOptions) (p : Project) : Prop where
  attributes : p.attributes.WellNamed
  dataTypes : ∀ t ∈ p.dataTypes, t.WellNamed
  dataTypeNames : (p.dataTypes.map (·.name)).Nodup
  objects : ∀ o ∈ p.objects, o.WellNamed options
  objectNames : (p.objects.map (·.name)).Nodup

/-! ### Looking names up -/

/-- **A reference leads to the first entity of a name**, among those of its kind in the object
at a position. -/
def KeyReference.IsFirst (i : Nat) (o : Object) (name : String) : KeyReference → Prop
  | .property h =>
    h.object = i ∧ (o.properties.findIdx? fun q => q.name == name) = some h.position
  | .link h => h.object = i ∧ (o.links.findIdx? fun l => l.name == name) = some h.position

/-- What a reference leads to is what the object finds under a name. -/
def KeyReference.IsFoundBy (p : Project) (o : Object) (name : String) : KeyReference → Prop
  | .property h => o.property? name = p.property? h
  | .link h => o.link? name = p.link? h

/-- **Looking a name up comes back to where it was read off.** -/
structure Project.LooksUp (p : Project) : Prop where
  object : ∀ (i : Nat) (o : Object), p.objects[i]? = some o → p.findObject? o.name = some i
  dataType : ∀ (i : Nat) (t : DataType), p.dataTypes[i]? = some t →
    p.findDataType? t.name = some i
  link : ∀ o ∈ p.objects, ∀ (j : Nat) (l : Link), o.links[j]? = some l →
    (o.links.findIdx? fun m => m.name == l.name) = some j ∧ o.link? l.name = some l
  reference : ∀ (i : Nat) (o : Object), p.objects[i]? = some o → ∀ x ∈ o.indexes, ∀ k ∈ x.keys,
    ∃ name, p.referenceName k.reference = some name ∧ k.reference.IsFirst i o name ∧
      k.reference.IsFoundBy p o name

namespace Load

/-! ### First matches -/

section Lists

variable {α : Type} {xs : List α} {key : α → String} {name : String} {x : α} {i : Nat}

/-- Among distinct names every position is the first one of its name. -/
theorem findIdx?_of_nodup (h : (xs.map key).Nodup) (hx : xs[i]? = some x) :
    (xs.findIdx? fun y => key y == key x) = some i := by
  rw [findIdx?_eq_some_iff_idxOf]
  obtain ⟨hlt, rfl⟩ := List.getElem?_eq_some_iff.mp hx
  have hlt' : i < (xs.map key).length := by rwa [List.length_map]
  have hidx := h.idxOf_getElem i hlt'
  rw [List.getElem_map] at hidx
  exact ⟨List.mem_map.mpr ⟨_, List.getElem_mem hlt, rfl⟩, hidx⟩

/-- What is found first stands at the first position. -/
theorem find?_of_findIdx? (h : (xs.findIdx? fun y => key y == name) = some i) :
    (xs.find? fun y => key y == name) = xs[i]? := by
  rw [List.find?_eq_bind_findIdx?_getElem?, h, Option.bind_some]

/-- The name at the first position of a name is that name. -/
theorem map_getElem?_of_findIdx? (h : (xs.findIdx? fun y => key y == name) = some i) :
    xs[i]?.map key = some name := by
  obtain ⟨hmem, rfl⟩ := findIdx?_eq_some_iff_idxOf.mp h
  rw [← List.getElem?_map]
  exact List.getElem?_idxOf hmem

end Lists

variable {options : LoadOptions} {d t : Tree} {p : Project}

/-! ### The names that a definition gives -/

/-- An identifier is a name once it is trimmed. -/
theorem isName_trimmed (h : IsIdentifier t) : IsName t.trimmed := by
  obtain ⟨⟨s, rfl, hne⟩, hblank⟩ := h
  exact ⟨hne, hblank⟩

theorem isName_declaredName (h : Requires t "name" IsIdentifier) : IsName t.declaredName :=
  isName_trimmed h.field

/-- **Attributes of either notation have good names.** -/
theorem wellNamed_attributes (h : IsAttributes t) : (Reading.attributes t).WellNamed := by
  obtain ⟨entries, rfl, hentries, hdistinct⟩ | ⟨⟨ts, rfl, hitems⟩, hdistinct⟩ := h
  · constructor
    · intro entry hentry
      obtain ⟨source, hsource, rfl⟩ := List.mem_map.mp hentry
      exact isName_trimmed (hentries source hsource).1
    · rw [Reading.attributes, List.map_map]
      exact hdistinct
  · constructor
    · intro entry hentry
      obtain ⟨item, hitem, rfl⟩ := List.mem_map.mp hentry
      exact isName_declaredName (hitems item hitem).name
    · rw [Reading.attributes, List.map_map]
      · exact hdistinct
      · exact fun _ h => nomatch h

theorem wellNamed_attributesOf (h : Allows t "attributes" IsAttributes) :
    (Reading.attributesOf t).WellNamed := by
  rw [Reading.attributesOf, Tree.field]
  cases hv : t.get? "attributes" with
  | none => exact ⟨List.forall_mem_nil _, List.nodup_nil⟩
  | some v => exact wellNamed_attributes (h v hv)

theorem wellNamed_property {types names : List String} {isLast : Bool} (h : IsProperty types t) :
    (Reading.property names isLast t).WellNamed :=
  ⟨isName_declaredName h.name, wellNamed_attributesOf h.attributes⟩

/-- **The types of a definition have good names**, those that are built in and those that it
declares. -/
theorem wellNamed_dataTypes (h : ∀ u ∈ d.itemsAt "datatypes", IsDataType u) :
    ∀ t ∈ (Reading.project d).dataTypes, t.WellNamed := by
  have hbuiltin : ∀ t ∈ builtinDataTypes, (t.name ≠ "" ∧ hasBlank t.name = false) ∧
      t.values.Nodup := by
    decide +kernel
  intro t ht
  obtain ht | ht := List.mem_append.mp ht
  · exact ⟨(hbuiltin t ht).1, (hbuiltin t ht).2⟩
  · obtain ⟨u, hu, rfl⟩ := List.mem_map.mp ht
    exact ⟨isName_declaredName (h u hu).name, (h u hu).distinct⟩

/-- **The parts of an object have good names.** -/
theorem wellNamed_object {types objects : List String} {i : Nat}
    (h : IsObject options types objects t) : (Reading.object d i t).WellNamed options where
  name := isName_declaredName h.name
  properties := by
    intro q hq
    obtain ⟨x, hx, rfl⟩ := List.mem_map.mp hq
    exact wellNamed_property
      (h.properties.forall_mem_itemsAt x.1 (List.fst_mem_of_mem_zipIdx hx))
  links := by
    intro l hl
    obtain ⟨u, hu, rfl⟩ := List.mem_map.mp hl
    exact isName_declaredName (h.links.forall_mem_itemsAt u hu).name
  linkNames := by
    rw [Reading.object, map_name_links]
    exact h.linkNames
  indexes := by
    intro x hx
    obtain ⟨u, hu, rfl⟩ := List.mem_map.mp hx
    exact isName_declaredName (h.indexes.forall_mem_itemsAt u hu).name
  indexNames := by
    intro hunique
    have hnames := h.indexNames hunique
    rw [Reading.object, Reading.indexes, List.map_map]
    exact hnames
  attributes := wellNamed_attributesOf h.attributes

/-- The names of the objects of a definition, as its project has them. -/
theorem map_name_objects (d : Tree) :
    (Reading.project d).objects.map (·.name) = d.namesAt "objects" := by
  rw [Reading.project, List.map_map]
  exact map_zipIdx Tree.declaredName _ 0

/-- The names of the types of a definition, as its project has them. -/
theorem map_name_dataTypes (d : Tree) :
    (Reading.project d).dataTypes.map (·.name) = Reading.typeNames d :=
  map_name_typesOf d

theorem wellNamed_project (hd : IsDefinition options d) :
    (Reading.project d).WellNamed options where
  attributes := wellNamed_attributesOf hd.attributes
  dataTypes := wellNamed_dataTypes hd.dataTypes.forall_mem_itemsAt
  dataTypeNames := by
    rw [map_name_dataTypes]
    exact hd.typeNames
  objects := by
    intro o ho
    obtain ⟨x, hx, rfl⟩ := List.mem_map.mp ho
    exact wellNamed_object (hd.objects.forall_mem_itemsAt x.1 (List.fst_mem_of_mem_zipIdx hx))
  objectNames := by
    rw [map_name_objects]
    exact hd.objectNames

/-! ### The names that keys give -/

/-- The first entity of a name bears that name, and is found by it. -/
theorem referenceName_of_isFirst {i : Nat} {o : Object} {name : String} {r : KeyReference}
    (ho : p.objects[i]? = some o) (hr : r.IsFirst i o name) :
    p.referenceName r = some name ∧ r.IsFoundBy p o name := by
  cases r with
  | property h =>
    obtain ⟨rfl, hfirst⟩ := hr
    have hfound : p.property? h = o.properties[h.position]? := by
      rw [Project.property?, ho]
      rfl
    rw [Project.referenceName, KeyReference.IsFoundBy, hfound]
    exact ⟨map_getElem?_of_findIdx? hfirst, find?_of_findIdx? hfirst⟩
  | link h =>
    obtain ⟨rfl, hfirst⟩ := hr
    have hfound : p.link? h = o.links[h.position]? := by
      rw [Project.link?, ho]
      rfl
    rw [Project.referenceName, KeyReference.IsFoundBy, hfound]
    exact ⟨map_getElem?_of_findIdx? hfirst, find?_of_findIdx? hfirst⟩

/-- **A key of a definition leads to the first entity of the name that it gives.** -/
theorem isFirst_keyReference {u : Tree} (i : Nat)
    (hu : IsIndexKey (t.namesAt "properties") (t.namesAt "links") u) :
    ∃ name, (Reading.keyReference i (t.namesAt "properties") (t.namesAt "links") u).IsFirst i
      (Reading.object d i t) name := by
  obtain ⟨key, name, rfl, ⟨rfl, hname⟩ | ⟨rfl, hname⟩⟩ := hu
  · have hnames := map_name_properties (Reading.typeNames d) t
    refine ⟨name.trimmed, rfl, ?_⟩
    rw [findIdx?_eq_some_iff_idxOf]
    exact ⟨hnames ▸ hname.2, congrArg (List.idxOf _) hnames⟩
  · have hnames := map_name_links (d.namesAt "objects") i t
    refine ⟨name.trimmed, rfl, ?_⟩
    rw [findIdx?_eq_some_iff_idxOf]
    exact ⟨hnames ▸ hname.2, congrArg (List.idxOf _) hnames⟩

/-! ### Loaded projects -/

theorem looksUp_project (hd : IsDefinition options d) : (Reading.project d).LooksUp where
  object _ _ ho := findIdx?_of_nodup (wellNamed_project hd).objectNames ho
  dataType _ _ ht := findIdx?_of_nodup (wellNamed_project hd).dataTypeNames ht
  link o ho j l hl := by
    have hfirst := findIdx?_of_nodup ((wellNamed_project hd).objects o ho).linkNames hl
    exact ⟨hfirst, (find?_of_findIdx? hfirst).trans hl⟩
  reference i o ho x hx k hk := by
    obtain ⟨t, ht, rfl⟩ := Option.map_eq_some_iff.mp (getElem?_objects_project d i ▸ ho)
    have hobject := hd.objects.forall_mem_itemsAt t (List.mem_of_getElem? ht)
    obtain ⟨u, hu, rfl⟩ := List.mem_map.mp hx
    obtain ⟨y, hy, rfl⟩ := List.mem_map.mp hk
    have hkey := (hobject.indexes.forall_mem_itemsAt u hu).keys.forall_mem_itemsAt y.1
      (List.fst_mem_of_mem_zipIdx hy)
    obtain ⟨name, hfirst⟩ := isFirst_keyReference (d := d) i hkey
    obtain ⟨hname, hfound⟩ := referenceName_of_isFirst ho hfirst
    exact ⟨name, hname, hfirst, hfound⟩

/-- **The names of a loaded project are good names**, different where they have to be, and
looking one up comes back to where it was read off. -/
theorem load_names (h : load options d = .ok p) : p.WellNamed options ∧ p.LooksUp := by
  obtain ⟨hd, rfl⟩ := (load_yields options d p).mp h
  exact ⟨wellNamed_project hd, looksUp_project hd⟩

/-- The key `id` of the shop means the first of two properties of that name. -/
theorem load_names_shop : ∃ p, load .default shop = .ok p ∧ p.WellNamed .default ∧ p.LooksUp ∧
    p.findObject? "Post" = some 1 := by
  obtain ⟨hnames, hlooksUp⟩ := load_names load_shop
  exact ⟨_, load_shop, hnames, hlooksUp, by decide +kernel⟩

end Load

end Blueprint
