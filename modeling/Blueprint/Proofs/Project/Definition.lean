import Blueprint.Proofs.Project.Writing

/-!
# Every well-formed project has a definition

Loading what has been written of a project gives the project back, provided that it is well formed
(`Blueprint.Load.load_definition`). So the format can say all that a loaded project can be, and
the conditions of `Blueprint.Project.WellFormed` are all that there are:
`Blueprint.Load.exists_definition_iff`.

| what is written | what is read back |
|---|---|
| a name in place of a position | the first position of that name |
| properties and keys in order | their numbers, and the mark of the last one |
| nothing about reverse links | the links that lead to the object |

Reverse links are the part that cannot be compared item by item. The links that have been read
back are those that were written, so the reverse links have the same members as before, and the
order of the file leaves one list of them (`Blueprint.Load.eq_of_ordered`).
-/

namespace Blueprint

open Grammar

namespace Load

/-! ### Indexes -/

section Indexes

variable {options : LoadOptions} {i : Nat} {o : Object} {r : KeyReference} {x : Index}

theorem areNames_links (h : o.WellNamed options) : AreNames o.linkNames :=
  ⟨List.forall_mem_map.mpr h.links, h.linkNames⟩

theorem isName_propertyName (h : o.WellNamed options) : ∀ name ∈ o.propertyNames, IsName name :=
  List.forall_mem_map.mpr fun q hq => (h.properties q hq).name

/-- A property that a key refers to is one of those that have names. -/
theorem property_lt {h : PropertyHandle} (hr : (KeyReference.property h).BelongsTo i o) :
    h.position < o.propertyNames.length := by
  rw [List.length_map]
  exact hr.2

/-- A link that a key refers to is one of those that have names. -/
theorem link_lt {h : LinkHandle} (hr : (KeyReference.link h).BelongsTo i o) :
    h.position < o.linkNames.length := by
  rw [List.length_map]
  exact hr.2

theorem isIndexKey_key (hnamed : o.WellNamed options) (hr : r.BelongsTo i o) :
    IsIndexKey o.propertyNames o.linkNames (Writing.key o.propertyNames o.linkNames r) := by
  cases r with
  | property h =>
    have hmem := getD_mem (property_lt hr)
    exact ⟨_, _, rfl, .inl ⟨rfl, isOneOf_string (isName_propertyName hnamed _ hmem).isTrimmed hmem⟩⟩
  | link h =>
    have hmem := getD_mem (link_lt hr)
    exact ⟨_, _, rfl,
      .inr ⟨rfl, isOneOf_string ((areNames_links hnamed).names _ hmem).isTrimmed hmem⟩⟩

/-- **A key is read back**: a link because its name is the only one, a property because it is the
first one of its name. -/
theorem reading_key (hnamed : o.WellNamed options) (hr : r.BelongsTo i o)
    (hfirst : ∀ h, r = .property h → ∃ name, r.IsFirst i o name) :
    Reading.keyReference i o.propertyNames o.linkNames
      (Writing.key o.propertyNames o.linkNames r) = r := by
  cases r with
  | property h =>
    obtain ⟨name, hobject, hname⟩ := hfirst h rfl
    obtain ⟨hmem, hposition⟩ := findIdx?_eq_some_iff_idxOf.mp hname
    have htrimmed := (isName_propertyName hnamed _ (getD_mem (property_lt hr))).isTrimmed
    have hback := idxOf_getD_idxOf hmem
    rw [hposition] at hback
    change KeyReference.property ⟨i, List.idxOf (Tree.string _).trimmed _⟩ = _
    rw [Tree.trimmed_string htrimmed, hback, ← hobject]
  | link h =>
    have hlinks := areNames_links hnamed
    have htrimmed := (hlinks.names _ (getD_mem (link_lt hr))).isTrimmed
    change KeyReference.link ⟨i, List.idxOf (Tree.string _).trimmed _⟩ = _
    rw [Tree.trimmed_string htrimmed, idxOf_getD hlinks.distinct (link_lt hr), ← hr.1]

theorem get?_index {properties links : List String} {key : String}
    (h : key ∈ ["name", "unique", "keys"]) :
    (Writing.index properties links x).get? key = Writing.indexField properties links x key :=
  Writing.get?_record (by decide) h

theorem declaredName_index {properties links : List String} (h : IsName x.name) :
    (Writing.index properties links x).declaredName = x.name :=
  Tree.textAt_of_get? (get?_index (by decide)) h.isTrimmed

variable (hnamed : o.WellNamed options) (hx : x ∈ o.indexes)

include hnamed hx

theorem isIndex_index (hkeys : x.keys ≠ [])
    (hreferences : ∀ k ∈ x.keys, k.reference.BelongsTo i o) :
    IsIndex o.propertyNames o.linkNames (Writing.index o.propertyNames o.linkNames x) where
  fields := Writing.isRecord_record (by decide)
  name := requires_of_get? (get?_index (by decide)) (isIdentifier_string (hnamed.indexes x hx))
  unique := allows_of_get? (get?_index (by decide)) ⟨_, rfl⟩
  keys := requires_of_get? (get?_index (by decide))
    (isNonemptySequenceOf_map hkeys fun k hk => isIndexKey_key hnamed (hreferences k hk))

/-- **An index is read back.** -/
theorem reading_index (howner : x.object = i)
    (hreferences : ∀ k ∈ x.keys, k.reference.BelongsTo i o) (hsettled : x.Settled i o) :
    Reading.index i o.propertyNames o.linkNames (Writing.index o.propertyNames o.linkNames x) =
      x := by
  have hkeys : (Writing.index o.propertyNames o.linkNames x).itemsAt "keys" =
      x.keys.map fun k => Writing.key o.propertyNames o.linkNames k.reference :=
    Tree.itemsAt_of_get? (get?_index (by decide))
  have hunique : (Writing.index o.propertyNames o.linkNames x).booleanAt? "unique" =
      some x.unique :=
    Tree.booleanAt?_of_get? (get?_index (by decide))
  rw [Reading.index, declaredName_index (hnamed.indexes x hx), hunique, Option.getD_some, hkeys,
    marked_map, ← howner]
  intro j k hk
  have hmem := List.mem_of_getElem? hk
  rw [Reading.indexKey, reading_key hnamed (hreferences k hmem) (hsettled.references k hmem),
    beq_eq_mark (hsettled.marks j k hk), ← hsettled.positions j k hk]

end Indexes

/-! ### Objects -/

section Objects

variable {types objects : List String} {o : Object}

theorem get?_object {key : String}
    (h : key ∈ ["name", "properties", "attributes", "links", "indexes"]) :
    (Writing.object types objects o).get? key = Writing.objectField types objects o key :=
  Writing.get?_record (by decide) h

theorem declaredName_object (h : IsName o.name) :
    (Writing.object types objects o).declaredName = o.name :=
  Tree.textAt_of_get? (get?_object (by decide)) h.isTrimmed

theorem itemsAt_properties_object : (Writing.object types objects o).itemsAt "properties" =
    o.properties.map (Writing.property types) :=
  Tree.itemsAt_of_get? (get?_object (by decide))

theorem itemsAt_links_object : (Writing.object types objects o).itemsAt "links" =
    o.links.map (Writing.link objects) :=
  Tree.itemsAt_of_get? (get?_object (by decide))

theorem itemsAt_indexes_object : (Writing.object types objects o).itemsAt "indexes" =
    o.indexes.map (Writing.index o.propertyNames o.linkNames) :=
  Tree.itemsAt_of_get? (get?_object (by decide))

variable {options : LoadOptions} {p : Project} {i : Nat}

/-- The type of a property is one of those that have names. -/
theorem type_lt (h : o.Intact p i) {q : Property} (hq : q ∈ o.properties) :
    q.dataType < p.typeNames.length := by
  rw [List.length_map]
  exact h.types q hq

/-- The target of a link is one of those that have names. -/
theorem target_lt (h : o.Intact p i) {l : Link} (hl : l ∈ o.links) :
    l.target < p.objectNames.length := by
  rw [List.length_map]
  exact h.targets l hl

section Names

variable (hnamed : o.WellNamed options)

include hnamed

/-- The names of properties, in what has been written. -/
theorem namesAt_properties_object :
    (Writing.object types objects o).namesAt "properties" = o.propertyNames := by
  rw [Tree.namesAt, itemsAt_properties_object, List.map_map]
  exact List.map_congr_left fun q hq => declaredName_property (hnamed.properties q hq)

theorem namesAt_links_object :
    (Writing.object types objects o).namesAt "links" = o.linkNames := by
  rw [Tree.namesAt, itemsAt_links_object, List.map_map]
  exact List.map_congr_left fun l hl => declaredName_link (hnamed.links l hl)

theorem namesAt_indexes_object :
    (Writing.object types objects o).namesAt "indexes" = o.indexes.map (·.name) := by
  rw [Tree.namesAt, itemsAt_indexes_object, List.map_map]
  exact List.map_congr_left fun x hx => declaredName_index (hnamed.indexes x hx)

end Names

variable (htypes : AreNames p.typeNames) (hobjects : AreNames p.objectNames)
  (hnamed : o.WellNamed options) (hintact : o.Intact p i) (hsettled : o.Settled p i)

include htypes hobjects hnamed hintact hsettled

theorem isObject_object : IsObject options p.typeNames p.objectNames
    (Writing.object p.typeNames p.objectNames o) where
  fields := Writing.isRecord_record (by decide)
  name := requires_of_get? (get?_object (by decide)) (isIdentifier_string hnamed.name)
  properties := requires_of_get? (get?_object (by decide))
    (isNonemptySequenceOf_map hintact.properties fun q hq =>
      isProperty_property htypes (hnamed.properties q hq) (hsettled.properties q hq)
        (type_lt hintact hq))
  attributes := allows_of_get? (get?_object (by decide))
    (isAttributes_toTree hnamed.attributes hsettled.attributes)
  links := allows_of_get? (get?_object (by decide))
    (isSequenceOf_map fun l hl => isLink_link hobjects (hnamed.links l hl) (target_lt hintact hl))
  linkNames := by
    rw [namesAt_links_object hnamed]
    exact hnamed.linkNames
  indexes := by
    rw [namesAt_properties_object hnamed, namesAt_links_object hnamed]
    exact allows_of_get? (get?_object (by decide)) (isSequenceOf_map fun x hx =>
      isIndex_index hnamed hx (hintact.keys x hx) (hintact.references x hx))
  indexNames := by
    rw [namesAt_indexes_object hnamed]
    exact hnamed.indexNames

omit hobjects in
/-- **The properties of an object are read back.** -/
theorem reading_properties :
    Reading.properties p.typeNames (Writing.object p.typeNames p.objectNames o) = o.properties := by
  rw [Reading.properties, itemsAt_properties_object]
  refine marked_map fun j q hq => ?_
  have hmem := List.mem_of_getElem? hq
  rw [beq_eq_mark (hsettled.marks j q hq)]
  exact reading_property htypes (hnamed.properties q hmem) (hsettled.properties q hmem)
    (type_lt hintact hmem)

omit htypes hsettled in
/-- **The links of an object are read back.** -/
theorem reading_links :
    Reading.links p.objectNames i (Writing.object p.typeNames p.objectNames o) = o.links := by
  rw [Reading.links, itemsAt_links_object]
  refine map_map_eq_self fun l hl => ?_
  rw [← hintact.sources l hl]
  exact reading_link hobjects (hnamed.links l hl) (target_lt hintact hl)

omit htypes hobjects in
/-- **The indexes of an object are read back.** -/
theorem reading_indexes :
    Reading.indexes i (Writing.object p.typeNames p.objectNames o) = o.indexes := by
  rw [Reading.indexes, itemsAt_indexes_object, namesAt_properties_object hnamed,
    namesAt_links_object hnamed]
  exact map_map_eq_self fun x hx => reading_index hnamed hx (hintact.owners x hx)
    (hintact.references x hx) (hsettled.indexes x hx)

end Objects

/-! ### Reverse links -/

/-- **The order of the file leaves one list of given links.** -/
theorem eq_of_ordered {xs ys : List LinkHandle} (hxs : xs.Pairwise LinkHandle.Before)
    (hys : ys.Pairwise LinkHandle.Before) (h : ∀ k, k ∈ xs ↔ k ∈ ys) : xs = ys := by
  have hirrefl : ∀ {a b : LinkHandle}, a.Before b → a ≠ b := by
    rintro a _ hab rfl
    simp [LinkHandle.Before] at hab
  have hnodup : ∀ {zs : List LinkHandle}, zs.Pairwise LinkHandle.Before → zs.Nodup :=
    fun hzs => hzs.imp hirrefl
  refine ((List.perm_ext_iff_of_nodup (hnodup hxs) (hnodup hys)).mpr h).eq_of_pairwise ?_ hxs hys
  intro a b _ _ hab hba
  exfalso
  simp only [LinkHandle.Before] at hab hba
  omega

/-- A link is found by the links of its source alone. -/
theorem link?_congr {p q : Project}
    (h : ∀ i : Nat, p.objects[i]?.map (·.links) = q.objects[i]?.map (·.links)) (k : LinkHandle) :
    p.link? k = q.link? k := by
  have hlinks : ∀ p : Project, p.link? k =
      (p.objects[k.object]?.map (·.links)).bind fun links => links[k.position]? := by
    intro p
    rw [Project.link?]
    cases p.objects[k.object]? <;> rfl
  rw [hlinks, hlinks, h]

/-! ### Projects -/

section Projects

variable {options : LoadOptions} {p : Project}

theorem get?_definition {key : String}
    (h : key ∈ ["name", "datatypes", "attributes", "objects", "files"]) :
    p.definition.get? key = p.definitionField key :=
  Writing.get?_record (by decide) h

theorem itemsAt_objects_definition : p.definition.itemsAt "objects" = p.objects.map
    (Writing.object p.typeNames p.objectNames) :=
  Tree.itemsAt_of_get? (get?_definition (by decide))

theorem itemsAt_dataTypes_definition :
    p.definition.itemsAt "datatypes" = p.userDataTypes.map Writing.dataType :=
  Tree.itemsAt_of_get? (get?_definition (by decide))

theorem itemsAt_files_definition : p.definition.itemsAt "files" = p.files.map Writing.file :=
  Tree.itemsAt_of_get? (get?_definition (by decide))

/-- Types are declared before they are used. -/
theorem typesFirst_definition : Reordering.TypesFirst p.definition := rfl

variable (h : p.WellFormed options)

include h

/-- **The types that are written down** are all but those built in. -/
theorem dataTypes_eq : p.dataTypes = builtinDataTypes ++ p.userDataTypes ∧
    ∀ t ∈ p.userDataTypes, t.WellNamed ∧ t.Declared := by
  obtain ⟨declared, heq, hdeclared⟩ := h.dataTypes
  have hbuiltin : builtinDataTypes.filter (fun t => !t.internal) = [] := by decide
  have huser : p.userDataTypes = declared := by
    rw [Project.userDataTypes, heq, List.filter_append, hbuiltin, List.nil_append,
      List.filter_eq_self]
    exact fun t ht => by rw [(hdeclared t ht).internal]; rfl
  rw [huser]
  refine ⟨heq, fun t ht => ⟨h.named.dataTypes t ?_, hdeclared t ht⟩⟩
  rw [heq]
  exact List.mem_append_right _ ht

theorem areNames_dataTypes : AreNames p.typeNames :=
  ⟨List.forall_mem_map.mpr fun t ht => (h.named.dataTypes t ht).name, h.named.dataTypeNames⟩

theorem areNames_objects : AreNames p.objectNames :=
  ⟨List.forall_mem_map.mpr fun o ho => (h.named.objects o ho).name, h.named.objectNames⟩

theorem namesAt_objects_definition : p.definition.namesAt "objects" = p.objectNames := by
  rw [Tree.namesAt, itemsAt_objects_definition, List.map_map]
  exact List.map_congr_left fun o ho => declaredName_object (h.named.objects o ho).name

theorem typeNames_definition : Reading.typeNames p.definition = p.typeNames := by
  have hdeclared : p.definition.namesAt "datatypes" = p.userDataTypes.map (·.name) := by
    rw [Tree.namesAt, itemsAt_dataTypes_definition, List.map_map]
    exact List.map_congr_left fun t ht => declaredName_dataType ((dataTypes_eq h).2 t ht).1
  rw [Reading.typeNames, hdeclared, Project.typeNames, (dataTypes_eq h).1, List.map_append,
    Reading.builtinNames]

theorem visibleTypes_definition : visibleTypes p.definition = p.typeNames := by
  rw [visibleTypes, Tree.namesAt_congr typesFirst_definition]
  exact typeNames_definition h

/-- **What has been written is a definition.** -/
theorem isDefinition_definition : IsDefinition options p.definition where
  fields := Writing.isRecord_record (by decide)
  name := requires_of_get? (get?_definition (by decide)) (isText_string h.name)
  dataTypes := allows_of_get? (get?_definition (by decide)) (isSequenceOf_map fun t ht =>
    isDataType_dataType ((dataTypes_eq h).2 t ht).1 ((dataTypes_eq h).2 t ht).2)
  typeNames := by
    rw [typeNames_definition h]
    exact h.named.dataTypeNames
  attributes := allows_of_get? (get?_definition (by decide))
    (isAttributes_toTree h.named.attributes h.attributes)
  objects := by
    rw [visibleTypes_definition h, namesAt_objects_definition h]
    refine requires_of_get? (get?_definition (by decide))
      (isNonemptySequenceOf_map h.intact.objects fun o ho => ?_)
    obtain ⟨i, hi, hintact⟩ := h.intact.exists_position ho
    exact isObject_object (areNames_dataTypes h) (areNames_objects h) (h.named.objects o ho) hintact
      (h.objects i o hi)
  objectNames := by
    rw [namesAt_objects_definition h]
    exact h.named.objectNames
  files := requires_of_get? (get?_definition (by decide))
    (isNonemptySequenceOf_map h.intact.files fun f hf => isFile_file (h.files f hf))

/-- The object at a position, as it is read back. -/
theorem getElem?_objects_definition (i : Nat) : (Reading.project p.definition).objects[i]? =
    p.objects[i]?.map fun o =>
      { o with reverseLinks := Reading.reverseLinks (p.definition.itemsAt "objects") o.name } := by
  rw [getElem?_objects_project, itemsAt_objects_definition, List.getElem?_map, Option.map_map]
  cases hi : p.objects[i]? with
  | none => rfl
  | some o =>
    have hnamed := h.named.objects o (List.mem_of_getElem? hi)
    have hintact := h.intact.object i o hi
    have hsettled := h.objects i o hi
    have hattributes : Reading.attributesOf
        (Writing.object p.typeNames p.objectNames o) = o.attributes :=
      attributesOf_of_get? hnamed.attributes hsettled.attributes (get?_object (by decide))
    rw [Option.map_some, Option.map_some, Function.comp_apply, Reading.object,
      declaredName_object hnamed.name, typeNames_definition h, namesAt_objects_definition h,
      reading_properties (areNames_dataTypes h) hnamed hintact hsettled,
      reading_links (areNames_objects h) hnamed hintact, reading_indexes hnamed hintact hsettled,
      hattributes, itemsAt_objects_definition]

/-- **The objects of a project are read back.** -/
theorem objects_definition : (Reading.project p.definition).objects = p.objects := by
  have hd := isDefinition_definition h
  have hlinks : ∀ i : Nat, (Reading.project p.definition).objects[i]?.map (·.links) =
      p.objects[i]?.map (·.links) := by
    intro i
    rw [getElem?_objects_definition h, Option.map_map]
    rfl
  refine List.ext_getElem? fun i => ?_
  cases hi : p.objects[i]? with
  | none => rw [getElem?_objects_definition h, hi, Option.map_none]
  | some o =>
    have hback := getElem?_objects_definition h i
    rw [hi, Option.map_some] at hback
    have hsettled := h.objects i o hi
    have hread := settled_object hd hback
    have hreverse : Reading.reverseLinks (p.definition.itemsAt "objects") o.name =
        o.reverseLinks := by
      refine eq_of_ordered hread.ordered hsettled.ordered fun k => ?_
      rw [hread.inverse, hsettled.inverse]
      simp only [link?_congr hlinks k]
    rw [hback, hreverse]

/-- **A project is read back from its definition.** -/
theorem project_definition : Reading.project p.definition = p := by
  obtain ⟨htypes, hdeclared⟩ := dataTypes_eq h
  have hname : p.definition.declaredName = p.name :=
    Tree.textAt_of_get? (get?_definition (by decide)) h.name
  have hattributes : Reading.attributesOf p.definition = p.attributes :=
    attributesOf_of_get? h.named.attributes h.attributes (get?_definition (by decide))
  have hdataTypes : builtinDataTypes ++
      (p.definition.itemsAt "datatypes").map Reading.dataType = p.dataTypes := by
    rw [itemsAt_dataTypes_definition,
      map_map_eq_self fun t ht => reading_dataType (hdeclared t ht).1 (hdeclared t ht).2, ← htypes]
  have hfiles : (p.definition.itemsAt "files").map Reading.file = p.files := by
    rw [itemsAt_files_definition]
    exact map_map_eq_self fun f hf => reading_file (h.files f hf)
  calc Reading.project p.definition
      = ⟨p.definition.declaredName, Reading.attributesOf p.definition,
          builtinDataTypes ++ (p.definition.itemsAt "datatypes").map Reading.dataType,
          (Reading.project p.definition).objects,
          (p.definition.itemsAt "files").map Reading.file⟩ := rfl
    _ = p := by rw [hname, hattributes, hdataTypes, objects_definition h, hfiles]

/-- **Loading the definition of a project gives the project back.** -/
theorem load_definition : load options p.definition = .ok p :=
  (load_yields options p.definition p).mpr ⟨isDefinition_definition h, project_definition h⟩

end Projects

/-- **The format can express every well-formed project**, and no other: a project has a definition
that loads to exactly it when its names are good names, its positions are in range, its texts are
trimmed, and the marks, numbers and reverse links in it are those that the loader works out. -/
theorem exists_definition_iff (options : LoadOptions) (p : Project) :
    (∃ d, load options d = .ok p) ↔ p.WellFormed options := by
  constructor
  · rintro ⟨d, hd⟩
    exact wellFormed_of_load hd
  · exact fun h => ⟨p.definition, load_definition h⟩

end Load

end Blueprint
