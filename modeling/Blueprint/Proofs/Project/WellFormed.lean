import Blueprint.Proofs.Project.Integrity
import Blueprint.Proofs.Project.Names
import Mathlib.Data.List.DropRight

/-!
# Well-formed projects

What can be said of every loaded project, so far as it is a condition on the project alone:
`Blueprint.Project.WellFormed`. It has three parts.

| part | says |
|---|---|
| `Blueprint.Project.WellNamed` | names are words, and differ where they have to |
| `Blueprint.Project.Intact` | what must be there is there, and positions are in range |
| `Blueprint.Object.Settled` and so on | texts are trimmed, and what the loader works out is right |

The last part is about what no definition says: which property is the last, how the keys of an
index are numbered, which of several properties of one name a key means, and which links lead to
an object. `Blueprint.Load.wellFormed_of_load` says that a loaded project is well formed. That
nothing more can be said of it is the subject of `Blueprint.Proofs.Project.Definition`.
-/

namespace Blueprint

open Grammar

/-! ### Trimmed texts -/

/-- **A trimmed text**: not empty, and no blank at either end. -/
def IsTrimmed (s : String) : Prop := s ≠ "" ∧ trim s = s

theorem dropTrailing_eq_rdropWhile (p : Char → Bool) (cs : List Char) :
    dropTrailing p cs = cs.rdropWhile p := rfl

/-- Trimming a second time changes nothing. -/
theorem trimBlanks_trimBlanks (cs : List Char) : trimBlanks (trimBlanks cs) = trimBlanks cs := by
  rw [trimBlanks, trimBlanks, dropTrailing_eq_rdropWhile, dropTrailing_eq_rdropWhile]
  -- What is left begins as it did before the blanks at the end were taken away.
  have hfront : ((cs.dropWhile isBlank).rdropWhile isBlank).dropWhile isBlank =
      (cs.dropWhile isBlank).rdropWhile isBlank := by
    rw [List.dropWhile_eq_self_iff]
    intro hlength hblank
    obtain ⟨rest, hrest⟩ := List.rdropWhile_prefix isBlank (cs.dropWhile isBlank)
    have hhead : (cs.dropWhile isBlank)[0]? =
        some ((cs.dropWhile isBlank).rdropWhile isBlank)[0] := by
      rw [← List.getElem?_eq_getElem hlength, ← List.getElem?_append_left hlength, hrest]
    obtain ⟨hlt, hget⟩ := List.getElem?_eq_some_iff.mp hhead
    have hfirst := List.dropWhile_get_zero_not isBlank cs hlt
    rw [List.get_eq_getElem, hget] at hfirst
    exact hfirst hblank
  rw [hfront, List.rdropWhile_idempotent]

theorem trim_trim (s : String) : trim (trim s) = trim s := by
  rw [trim, trim, String.toList_ofList, trimBlanks_trimBlanks]

/-- Where there is no blank there is none to take away. -/
theorem trim_of_hasBlank_eq_false {s : String} (h : hasBlank s = false) : trim s = s := by
  rw [hasBlank, List.any_eq_false] at h
  have hfront : s.toList.dropWhile isBlank = s.toList :=
    List.dropWhile_eq_self_iff.mpr fun hl => h _ (List.getElem_mem hl)
  have hback : s.toList.rdropWhile isBlank = s.toList :=
    List.rdropWhile_eq_self_iff.mpr fun hl => h _ (List.getLast_mem hl)
  rw [trim, trimBlanks, hfront, dropTrailing_eq_rdropWhile, hback, String.ofList_toList]

/-- A name is a trimmed text. -/
theorem IsName.isTrimmed {s : String} (h : IsName s) : IsTrimmed s :=
  ⟨h.1, trim_of_hasBlank_eq_false h.2⟩

/-- A text of a definition is trimmed once it has been read. -/
theorem isTrimmed_trimmed {t : Tree} (h : IsText t) : IsTrimmed t.trimmed := by
  obtain ⟨s, rfl, hne⟩ := h
  exact ⟨hne, trim_trim s⟩

/-! ### What is asked of the parts of a project -/

/-- Attributes whose texts are trimmed. -/
def AttributeMap.Trimmed (m : AttributeMap) : Prop :=
  ∀ name s, (name, Scalar.string s) ∈ m.entries → IsTrimmed s

/-- A type as a definition declares it: an enumeration of at least one value. -/
structure DataType.Declared (t : DataType) : Prop where
  kind : t.kind = .enumeration
  internal : t.internal = false
  values : t.values ≠ []
  trimmed : ∀ v ∈ t.values, IsTrimmed v

/-- A property with a trimmed pattern, and with bounds that are not crossed. -/
structure Property.Regular (q : Property) : Prop where
  pattern : ∀ s, q.pattern = some s → IsTrimmed s
  range : ∀ low high, q.minimum = some low → q.maximum = some high → low.exceeds high = false
  attributes : q.attributes.Trimmed

/-- **The keys of an index as the loader settles them**, for the object at a position: they are
numbered from one, the last one is marked, and one that names a property means the first property
of that name. -/
structure Index.Settled (i : Nat) (o : Object) (x : Index) : Prop where
  positions : ∀ (j : Nat) (k : IndexKey), x.keys[j]? = some k → k.position = j + 1
  marks : ∀ (j : Nat) (k : IndexKey), x.keys[j]? = some k →
    (k.isLast = true ↔ j + 1 = x.keys.length)
  references : ∀ k ∈ x.keys, ∀ h, k.reference = .property h →
    ∃ name, k.reference.IsFirst i o name

/-- **An object as the loader settles it**, at its position: the last property is marked, and the
reverse links are the links that lead to the object, in the order of the file. -/
structure Object.Settled (p : Project) (i : Nat) (o : Object) : Prop where
  attributes : o.attributes.Trimmed
  properties : ∀ q ∈ o.properties, q.Regular
  marks : ∀ (j : Nat) (q : Property), o.properties[j]? = some q →
    (q.isLast = true ↔ j + 1 = o.properties.length)
  ordered : o.reverseLinks.Pairwise LinkHandle.Before
  inverse : ∀ k, k ∈ o.reverseLinks ↔ ∃ l, p.link? k = some l ∧ l.target = i
  indexes : ∀ x ∈ o.indexes, x.Settled i o

/-- **A well-formed project**: all that can be said of a project that has been loaded. -/
structure Project.WellFormed (options : LoadOptions) (p : Project) : Prop where
  named : p.WellNamed options
  intact : p.Intact
  name : IsTrimmed p.name
  attributes : p.attributes.Trimmed
  dataTypes : ∃ declared, p.dataTypes = builtinDataTypes ++ declared ∧
    ∀ t ∈ declared, t.Declared
  objects : ∀ (i : Nat) (o : Object), p.objects[i]? = some o → o.Settled p i
  files : ∀ f ∈ p.files, IsTrimmed f.input ∧ IsTrimmed f.output

namespace Load

variable {options : LoadOptions} {d t : Tree} {p : Project}

/-! ### Loaded projects are well formed -/

theorem trimmed_attributeValue {s : String} (h : IsAttributeValue t)
    (hs : Reading.attributeValue t = .string s) : IsTrimmed s := by
  obtain ⟨b, rfl⟩ | ⟨n, rfl⟩ | htext := h
  · exact nomatch hs
  · exact nomatch hs
  · obtain ⟨raw, rfl, hne⟩ := htext
    obtain rfl : trim raw = s := Scalar.string.inj hs
    exact ⟨hne, trim_trim raw⟩

/-- **The texts of attributes are trimmed**, in either notation. -/
theorem trimmed_attributes (h : IsAttributes t) : (Reading.attributes t).Trimmed := by
  intro name s hmem
  obtain ⟨entries, rfl, hentries, -⟩ | ⟨⟨ts, rfl, hitems⟩, -⟩ := h
  · obtain ⟨entry, hentry, heq⟩ := List.mem_map.mp hmem
    exact trimmed_attributeValue (hentries entry hentry).2 (Prod.mk.inj heq).2
  · obtain ⟨item, hitem, heq⟩ := List.mem_map.mp hmem
    exact trimmed_attributeValue (hitems item hitem).value.field (Prod.mk.inj heq).2

theorem trimmed_attributesOf (h : Allows t "attributes" IsAttributes) :
    (Reading.attributesOf t).Trimmed := by
  rw [Reading.attributesOf, Tree.field]
  cases hv : t.get? "attributes" with
  | none => exact fun _ _ => List.not_mem_nil.elim
  | some v => exact trimmed_attributes (h v hv)

theorem trimmed_enumerationValue (h : IsEnumerationValue t) :
    IsTrimmed (Reading.enumerationValue t) := by
  obtain htext | ⟨⟨entries, rfl, -⟩, hvalue⟩ := h
  · obtain ⟨s, rfl, hne⟩ := htext
    exact ⟨hne, trim_trim s⟩
  · exact isTrimmed_trimmed hvalue.field

/-- A declared type. -/
theorem declared_dataType (h : IsDataType t) : (Reading.dataType t).Declared where
  kind := rfl
  internal := rfl
  values hnil := h.values.itemsAt_ne_nil (List.map_eq_nil_iff.mp hnil)
  trimmed := by
    intro v hv
    obtain ⟨u, hu, rfl⟩ := List.mem_map.mp hv
    exact trimmed_enumerationValue (h.values.forall_mem_itemsAt u hu)

theorem regular_property {types names : List String} {isLast : Bool} (h : IsProperty types t) :
    (Reading.property names isLast t).Regular where
  pattern := by
    intro s hs
    obtain ⟨v, hv, rfl⟩ := Option.map_eq_some_iff.mp hs
    exact isTrimmed_trimmed (h.pattern v hv)
  range := h.range
  attributes := trimmed_attributesOf h.attributes

/-- **The items of a list are numbered from one**, and the last one is marked. -/
theorem getElem?_marked {α : Type} (read : Nat → Bool → Tree → α) (ts : List Tree) (j : Nat) :
    (Reading.marked read ts)[j]? =
      ts[j]?.map fun t => read (j + 1) (j + 1 == ts.length) t := by
  rw [Reading.marked, List.getElem?_map, List.getElem?_zipIdx, Option.map_map, Nat.add_comm 1 j]
  rfl

theorem length_marked {α : Type} (read : Nat → Bool → Tree → α) (ts : List Tree) :
    (Reading.marked read ts).length = ts.length := by
  rw [Reading.marked, List.length_map, List.length_zipIdx]

/-- **The keys of a loaded index are settled.** -/
theorem settled_index {properties links : List String} {i : Nat}
    (hproperties : properties = t.namesAt "properties") (hlinks : links = t.namesAt "links")
    {u : Tree} (hu : IsIndex properties links u) :
    (Reading.index i properties links u).Settled i (Reading.object d i t) where
  positions := by
    intro j k hk
    rw [Reading.index, getElem?_marked, Option.map_eq_some_iff] at hk
    obtain ⟨v, -, rfl⟩ := hk
    rfl
  marks := by
    intro j k hk
    rw [Reading.index, getElem?_marked, Option.map_eq_some_iff] at hk
    obtain ⟨v, -, rfl⟩ := hk
    rw [Reading.index, length_marked]
    exact beq_iff_eq
  references := by
    intro k hk h _
    obtain ⟨y, hy, rfl⟩ := List.mem_map.mp hk
    subst hproperties hlinks
    exact isFirst_keyReference i
      (hu.keys.forall_mem_itemsAt y.1 (List.fst_mem_of_mem_zipIdx hy))

/-- **The objects of a loaded project are settled.** -/
theorem settled_object (hd : IsDefinition options d) {i : Nat} {o : Object}
    (ho : (Reading.project d).objects[i]? = some o) : o.Settled (Reading.project d) i := by
  have hinverse := fun k => mem_reverseLinks_iff hd ho (h := k)
  have hordered : o.reverseLinks.Pairwise LinkHandle.Before := by
    rw [reverseLinks_project hd ho]
    exact pairwise_handlesTo (linksOf d) i
  obtain ⟨t, ht, rfl⟩ := Option.map_eq_some_iff.mp (getElem?_objects_project d i ▸ ho)
  have hobject := hd.objects.forall_mem_itemsAt t (List.mem_of_getElem? ht)
  exact {
    attributes := trimmed_attributesOf hobject.attributes
    properties := by
      intro q hq
      obtain ⟨x, hx, rfl⟩ := List.mem_map.mp hq
      exact regular_property
        (hobject.properties.forall_mem_itemsAt x.1 (List.fst_mem_of_mem_zipIdx hx))
    marks := by
      intro j q hq
      rw [Reading.object, Reading.properties, getElem?_marked, Option.map_eq_some_iff] at hq
      obtain ⟨u, -, rfl⟩ := hq
      rw [Reading.object, Reading.properties, length_marked]
      exact beq_iff_eq
    ordered := hordered
    inverse := hinverse
    indexes := by
      intro x hx
      obtain ⟨u, hu, rfl⟩ := List.mem_map.mp hx
      exact settled_index rfl rfl (hobject.indexes.forall_mem_itemsAt u hu) }

/-- **A loaded project is well formed.** -/
theorem wellFormed_of_load (h : load options d = .ok p) : p.WellFormed options := by
  obtain ⟨hd, rfl⟩ := (load_yields options d p).mp h
  exact {
    named := wellNamed_project hd
    intact := intact_project hd
    name := isTrimmed_trimmed hd.name.field
    attributes := trimmed_attributesOf hd.attributes
    dataTypes := by
      refine ⟨_, rfl, fun t ht => ?_⟩
      obtain ⟨u, hu, rfl⟩ := List.mem_map.mp ht
      exact declared_dataType (hd.dataTypes.forall_mem_itemsAt u hu)
    objects := fun _ _ ho => settled_object hd ho
    files := by
      intro f hf
      obtain ⟨u, hu, rfl⟩ := List.mem_map.mp hf
      have hfile := hd.files.forall_mem_itemsAt u hu
      exact ⟨isTrimmed_trimmed hfile.input.field, isTrimmed_trimmed hfile.output.field⟩ }

end Load

end Blueprint
