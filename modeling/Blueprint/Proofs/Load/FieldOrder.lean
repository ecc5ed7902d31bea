import Blueprint.Proofs.Load.Acceptance

/-!
# Fields in another order

The fields of a fragment may be written in any order. `Blueprint.Reordering.SameDefinition`
relates two definitions that differ in nothing else, at any depth, and
`Blueprint.Load.load_reordered` says that they describe the same project.

| fragment | where fragments stand inside | relation |
|---|---|---|
| attribute of a list, data type, link, index, file | nowhere | `SameFragment` |
| property | `attributes` | `SameProperty` |
| object | `attributes`, `properties`, `links`, `indexes` | `SameObject` |
| definition | `attributes`, `datatypes`, `objects`, `files` | `SameDefinition` |

Sequences keep their order, and so do attributes written as a mapping, whose order shows in the
project. A value of an enumeration and a key of an index have one field each, and no other order.

Two fields of a definition do not commute: a property may have a type only if it is declared
before the objects. `datatypes` therefore has to stand before `objects` in the definition that is
loaded instead. Where it stood in the first one does not matter. Types that become visible to the
properties are added behind those that they had, and no name is found earlier for it.
-/

namespace Blueprint

namespace Reordering

/-! ### Fragments with their fields in another order -/

/-- **The entries of a mapping in another order.** The value under a key is replaced by one that
`R` relates to it. -/
def SameRecord (R : String → Tree → Tree → Prop) (t u : Tree) : Prop :=
  ∃ entries moved others, t = .mapping entries ∧ u = .mapping others ∧ entries.Perm moved ∧
    List.Forall₂ (fun e f => e.1 = f.1 ∧ R e.1 e.2 f.2) moved others

/-- The items of a sequence, each replaced by one that `R` relates to it. -/
def SameSequence (R : Tree → Tree → Prop) (t u : Tree) : Prop :=
  ∃ ts us, t = .sequence ts ∧ u = .sequence us ∧ List.Forall₂ R ts us

/-- A fragment without fragments inside. -/
def SameFragment : Tree → Tree → Prop := SameRecord fun _ => Eq

/-- Attributes, where those of a list may have their fields in another order. -/
def SameAttributes (t u : Tree) : Prop := t = u ∨ SameSequence SameFragment t u

/-- What may change under a field of a property. -/
def PropertyField : String → Tree → Tree → Prop
  | "attributes" => SameAttributes
  | _ => Eq

def SameProperty : Tree → Tree → Prop := SameRecord PropertyField

/-- What may change under a field of an object. -/
def ObjectField : String → Tree → Tree → Prop
  | "attributes" => SameAttributes
  | "properties" => SameSequence SameProperty
  | "links" => SameSequence SameFragment
  | "indexes" => SameSequence SameFragment
  | _ => Eq

def SameObject : Tree → Tree → Prop := SameRecord ObjectField

/-- What may change under a field of a definition. -/
def DefinitionField : String → Tree → Tree → Prop
  | "attributes" => SameAttributes
  | "datatypes" => SameSequence SameFragment
  | "objects" => SameSequence SameObject
  | "files" => SameSequence SameFragment
  | _ => Eq

/-- **A definition with the fields of its fragments in another order.** -/
def SameDefinition : Tree → Tree → Prop := SameRecord DefinitionField

/-- The types of a definition, if it has any, are declared before the objects. -/
def TypesFirst (d : Tree) : Prop := (d.before "objects").get? "datatypes" = d.get? "datatypes"

end Reordering

namespace Tree

variable {entries others : Entries} {key : String} {value : Tree}

/-! ### Looking keys up in another order -/

/-- Among distinct keys every entry is the first one of its key. -/
theorem lookup?_eq_some_iff (h : (entries.map (·.1)).Nodup) :
    lookup? entries key = some value ↔ (key, value) ∈ entries := by
  rw [lookup?, Option.map_eq_some_iff]
  constructor
  · rintro ⟨⟨k, v⟩, hfind, rfl⟩
    obtain rfl : k = key := by simpa using List.find?_some hfind
    exact List.mem_of_find?_eq_some hfind
  · intro hmem
    obtain ⟨found, hfound⟩ := Option.isSome_iff_exists.mp
      (List.find?_isSome (p := fun entry : String × Tree => entry.1 == key) |>.mpr
        ⟨(key, value), hmem, beq_self_eq_true _⟩)
    have hkey : found.1 = key := by simpa using List.find?_some hfound
    have hsame : found = (key, value) :=
      List.inj_on_of_nodup_map h (List.mem_of_find?_eq_some hfound) hmem hkey
    exact ⟨found, hfound, by rw [hsame]⟩

/-- **Distinct keys can be looked up in any order.** -/
theorem lookup?_perm (h : (entries.map (·.1)).Nodup) (hperm : entries.Perm others) :
    lookup? others key = lookup? entries key := by
  have hothers : (others.map (·.1)).Nodup := (hperm.map _).nodup_iff.mp h
  refine Option.ext fun value => ?_
  rw [lookup?_eq_some_iff hothers, lookup?_eq_some_iff h, hperm.mem_iff]

/-- Entries that agree in their keys, one by one, agree in what is found under a key. -/
theorem lookup?_rel {R : String → Tree → Tree → Prop}
    (h : List.Forall₂ (fun e f => e.1 = f.1 ∧ R e.1 e.2 f.2) entries others) :
    Option.Rel (R key) (lookup? entries key) (lookup? others key) := by
  induction h with
  | nil => exact .none
  | @cons e f entries others hef _ ih =>
    obtain ⟨hkey, hR⟩ := hef
    rw [lookup?, lookup?]
    by_cases hk : e.1 = key
    · rw [List.find?_cons_of_pos (by simpa using hk),
        List.find?_cons_of_pos (by simpa [← hkey] using hk)]
      exact .some (hk ▸ hR)
    · rw [List.find?_cons_of_neg (by simpa using hk),
        List.find?_cons_of_neg (by simpa [← hkey] using hk)]
      exact ih

end Tree

namespace Reordering

open Grammar

variable {R : String → Tree → Tree → Prop} {t u : Tree} {fields : List String} {key : String}

/-- The keys of a record are the same in another order. -/
theorem SameRecord.isRecord (h : SameRecord R t u) (ht : IsRecord fields t) : IsRecord fields u := by
  obtain ⟨_, moved, others, rfl, rfl, hperm, hrel⟩ := h
  obtain ⟨entries, ⟨⟩, hnodup, hfields⟩ := ht
  have hkeys : List.Forall₂ Eq (moved.map (·.1)) (others.map (·.1)) := by
    rw [List.forall₂_map_left_iff, List.forall₂_map_right_iff]
    exact hrel.imp fun _ _ h => h.1
  rw [List.forall₂_eq_eq_eq] at hkeys
  have hmoved := hperm.map (·.1)
  refine ⟨others, rfl, ?_, ?_⟩
  · rw [← hkeys]
    exact hmoved.nodup_iff.mp hnodup
  · rw [← hkeys]
    exact fun k hk => hfields k (hmoved.mem_iff.mpr hk)

/-- **What is found under a key of a record is related to what was found there.** -/
theorem SameRecord.rel (h : SameRecord R t u) (ht : IsRecord fields t) (key : String) :
    Option.Rel (R key) (t.get? key) (u.get? key) := by
  obtain ⟨_, moved, others, rfl, rfl, hperm, hrel⟩ := h
  obtain ⟨entries, ⟨⟩, hnodup, -⟩ := ht
  -- First the entries change places, and then their values are replaced.
  rw [Tree.get?_mapping, Tree.get?_mapping, ← Tree.lookup?_perm hnodup hperm]
  exact Tree.lookup?_rel hrel

/-- A field with no fragments inside is found again. -/
theorem SameRecord.get? (h : SameRecord R t u) (ht : IsRecord fields t) (hR : R key = Eq) :
    u.get? key = t.get? key := by
  have hrel := h.rel ht key
  rw [hR] at hrel
  generalize t.get? key = x at hrel
  generalize u.get? key = y at hrel
  cases hrel with
  | none => rfl
  | some hv => rw [hv]

/-- Fields that change places and do not change otherwise. -/
theorem SameRecord.of_perm {entries others : Entries} (hR : ∀ key v, R key v v)
    (h : entries.Perm others) : SameRecord R (.mapping entries) (.mapping others) :=
  ⟨entries, others, others, rfl, rfl, h, List.forall₂_same.mpr fun e _ => ⟨rfl, hR e.1 e.2⟩⟩

theorem PropertyField.refl (key : String) (v : Tree) : PropertyField key v v := by
  unfold PropertyField
  split
  · exact .inl rfl
  · rfl

/-! ### Relations that the loader does not see -/

/-- **Related trees are accepted alike and read alike.** -/
def Respects {α : Type} (R : Tree → Tree → Prop) (P : Tree → Prop) (f : Tree → α) : Prop :=
  ∀ t u, R t u → P t → P u ∧ f u = f t

section Respects

variable {α β : Type} {R : Tree → Tree → Prop} {P : Tree → Prop} {f : Tree → α}

/-- Lists are related item by item. -/
theorem Respects.forall₂ (h : Respects R P f) {ts us : List Tree} (hrel : List.Forall₂ R ts us)
    (hts : ∀ t ∈ ts, P t) : (∀ u ∈ us, P u) ∧ us.map f = ts.map f := by
  induction hrel with
  | nil => exact ⟨hts, rfl⟩
  | @cons t u ts us htu _ ih =>
    rw [List.forall_mem_cons] at hts
    obtain ⟨hu, hread⟩ := h t u htu hts.1
    obtain ⟨hus, hreads⟩ := ih hts.2
    exact ⟨List.forall_mem_cons.mpr ⟨hu, hus⟩, by rw [List.map_cons, List.map_cons, hread, hreads]⟩

theorem Respects.sequence (h : Respects R P f) :
    Respects (SameSequence R) (IsSequenceOf P) fun t => t.items.map f := by
  rintro _ _ ⟨ts, us, rfl, rfl, hrel⟩ ⟨_, ⟨⟩, hall⟩
  obtain ⟨hus, hreads⟩ := h.forall₂ hrel hall
  exact ⟨⟨us, rfl, hus⟩, hreads⟩

theorem Respects.nonemptySequence (h : Respects R P f) :
    Respects (SameSequence R) (IsNonemptySequenceOf P) fun t => t.items.map f := by
  rintro t u hrel ⟨hall, hne⟩
  obtain ⟨hus, hreads⟩ := h.sequence t u hrel hall
  -- Items that are read alike are equally many.
  have hlength : u.items.length = t.items.length := by simpa using congrArg List.length hreads
  refine ⟨⟨hus, fun hempty => hne ?_⟩, hreads⟩
  exact List.eq_nil_of_length_eq_zero (by rw [← hlength, hempty, List.length_nil])

variable {t u : Tree} {key : String}

/-- A field that has to be there. -/
theorem Respects.requires (h : Respects R P f) (hrel : Option.Rel R (t.get? key) (u.get? key))
    (ht : Requires t key P) : Requires u key P ∧ f (u.field key) = f (t.field key) := by
  rw [Requires, Tree.field, Tree.field]
  obtain ⟨v, hv, hP⟩ := ht
  generalize u.get? key = y at hrel ⊢
  rw [hv] at hrel ⊢
  cases hrel with
  | @some _ w hR =>
    obtain ⟨hw, hread⟩ := h v w hR hP
    exact ⟨⟨w, rfl, hw⟩, hread⟩

/-- A field that may be absent. -/
theorem Respects.allows (h : Respects R P f) (hrel : Option.Rel R (t.get? key) (u.get? key))
    (ht : Allows t key P) : Allows u key P ∧ (u.get? key).map f = (t.get? key).map f := by
  rw [Allows] at ht ⊢
  generalize t.get? key = x at hrel ht ⊢
  generalize u.get? key = y at hrel ⊢
  cases hrel with
  | none => exact ⟨by rintro _ ⟨⟩, rfl⟩
  | @some v w hR =>
    obtain ⟨hw, hread⟩ := h v w hR (ht v rfl)
    refine ⟨?_, congrArg some hread⟩
    rintro _ ⟨⟩
    exact hw

/-- The items of a list that has to be there. -/
theorem Respects.requires_items (h : Respects R P f)
    (hrel : Option.Rel (SameSequence R) (t.get? key) (u.get? key))
    (ht : Requires t key (IsNonemptySequenceOf P)) :
    Requires u key (IsNonemptySequenceOf P) ∧ (u.itemsAt key).map f = (t.itemsAt key).map f :=
  h.nonemptySequence.requires hrel ht

/-- The items of a list that may be absent. -/
theorem Respects.allows_items (h : Respects R P f)
    (hrel : Option.Rel (SameSequence R) (t.get? key) (u.get? key))
    (ht : Allows t key (IsSequenceOf P)) :
    Allows u key (IsSequenceOf P) ∧ (u.itemsAt key).map f = (t.itemsAt key).map f := by
  obtain ⟨hu, hread⟩ := h.sequence.allows hrel ht
  refine ⟨hu, ?_⟩
  have hitems : ∀ v : Tree, (v.itemsAt key).map f =
      ((v.get? key).map fun w => w.items.map f).getD [] := by
    intro v
    rw [Tree.itemsAt, Tree.field]
    cases v.get? key <;> rfl
  rw [hitems, hitems, hread]

end Respects

/-! ### Fragments without fragments inside -/

/-- Nothing else is found under a key. -/
theorem SameFragment.get? (h : SameFragment t u) (ht : IsRecord fields t) (key : String) :
    u.get? key = t.get? key :=
  SameRecord.get? h ht rfl

theorem respects_attributeItem : Respects SameFragment IsAttribute Reading.attributeItem := by
  intro t u h ht
  have hget := h.get? ht.fields
  refine ⟨⟨h.isRecord ht.fields, ?_, ?_⟩, ?_⟩
  · exact (requires_congr (hget _)).mpr ht.name
  · exact (requires_congr (hget _)).mpr ht.value
  · simp only [Reading.attributeItem, Tree.declaredName, Tree.textAt, Tree.field, hget]

theorem respects_dataType : Respects SameFragment IsDataType Reading.dataType := by
  intro t u h ht
  have hget := h.get? ht.fields
  have hread : Reading.dataType u = Reading.dataType t := by
    simp only [Reading.dataType, Tree.declaredName, Tree.textAt, Tree.itemsAt, Tree.field, hget]
  refine ⟨⟨h.isRecord ht.fields, ?_, ?_, ?_, ?_⟩, hread⟩
  · exact (requires_congr (hget _)).mpr ht.name
  · exact (requires_congr (hget _)).mpr ht.type
  · exact (requires_congr (hget _)).mpr ht.values
  · rw [Tree.itemsAt_congr (hget _)]
    exact ht.distinct

theorem respects_file : Respects SameFragment IsFile Reading.file := by
  intro t u h ht
  have hget := h.get? ht.fields
  refine ⟨⟨h.isRecord ht.fields, ?_, ?_, ?_⟩, ?_⟩
  · exact (requires_congr (hget _)).mpr ht.scope
  · exact (requires_congr (hget _)).mpr ht.input
  · exact (requires_congr (hget _)).mpr ht.output
  · rw [Reading.file, Reading.file, Reading.fileScope, Reading.fileScope,
      Tree.textAt_congr (hget "scope"), Tree.textAt_congr (hget "input"),
      Tree.textAt_congr (hget "output")]

/-- What is read of a link: the name of its target, and the link once positions are known. -/
def linkReading (t : Tree) : String × (List String → Nat → Link) :=
  (t.textAt "target", fun objects source => Reading.link objects source t)

theorem respects_link (objects : List String) :
    Respects SameFragment (IsLink objects) linkReading := by
  intro t u h ht
  have hget := h.get? ht.fields
  refine ⟨⟨h.isRecord ht.fields, ?_, ?_, ?_⟩, ?_⟩
  · exact (requires_congr (hget _)).mpr ht.name
  · exact (requires_congr (hget _)).mpr ht.target
  · exact (allows_congr (hget _)).mpr ht.mandatory
  · simp only [linkReading, Reading.link, Tree.declaredName, Tree.booleanAt?, Tree.textAt,
      Tree.field, hget]

/-- What is read of an index, once the names of its object are known. -/
def indexReading (t : Tree) (object : Nat) (properties links : List String) : Index :=
  Reading.index object properties links t

theorem respects_index (properties links : List String) :
    Respects SameFragment (IsIndex properties links) indexReading := by
  intro t u h ht
  have hget := h.get? ht.fields
  refine ⟨⟨h.isRecord ht.fields, ?_, ?_, ?_⟩, ?_⟩
  · exact (requires_congr (hget _)).mpr ht.name
  · exact (allows_congr (hget _)).mpr ht.unique
  · exact (requires_congr (hget _)).mpr ht.keys
  · funext object properties links
    simp only [indexReading, Reading.index, Tree.declaredName, Tree.booleanAt?, Tree.textAt,
      Tree.itemsAt, Tree.field, hget]

/-! ### Attributes and properties -/

/-- Lists that are read alike are read alike further on. -/
theorem map_comp_congr {α β γ : Type} {f : α → β} {xs ys : List α} (h : ys.map f = xs.map f)
    (g : β → γ) : (ys.map fun x => g (f x)) = xs.map fun x => g (f x) := by
  change ys.map (g ∘ f) = xs.map (g ∘ f)
  rw [← List.map_map, h, List.map_map]

theorem respects_attributes : Respects SameAttributes IsAttributes Reading.attributes := by
  rintro t u (rfl | h) ht
  · exact ⟨ht, rfl⟩
  · -- Only a list has changed, as a mapping of attributes is no sequence.
    rcases ht with ⟨_, rfl, -⟩ | ⟨hlist, hnames⟩
    · obtain ⟨_, _, hmapping, -⟩ := h
      exact nomatch hmapping
    · obtain ⟨hu, hread⟩ := respects_attributeItem.sequence t u h hlist
      have hsame : u.items.map Tree.declaredName = t.items.map Tree.declaredName :=
        map_comp_congr hread Prod.fst
      obtain ⟨ts, us, rfl, rfl, -⟩ := h
      exact ⟨.inr ⟨hu, by rwa [hsame]⟩, congrArg AttributeMap.mk hread⟩

/-- The attributes of a fragment. -/
theorem attributes_congr (hrel : Option.Rel SameAttributes (t.get? "attributes") (u.get? "attributes"))
    (ht : Allows t "attributes" IsAttributes) :
    Allows u "attributes" IsAttributes ∧ Reading.attributesOf u = Reading.attributesOf t := by
  obtain ⟨hu, hread⟩ := respects_attributes.allows hrel ht
  exact ⟨hu, by rw [← Load.getD_map_attributes, ← Load.getD_map_attributes, hread]⟩

/-- What is read of a property, once the types are known and whether it is the last. -/
def propertyReading (t : Tree) (types : List String) (isLast : Bool) : Property :=
  Reading.property types isLast t

theorem respects_property (types : List String) :
    Respects SameProperty (IsProperty types) propertyReading := by
  intro t u h ht
  have hget : ∀ key, PropertyField key = Eq → u.get? key = t.get? key :=
    fun _ hkey => SameRecord.get? h ht.fields hkey
  have hminimum : u.numberAt? "minimum" = t.numberAt? "minimum" := by
    rw [Tree.numberAt?, Tree.numberAt?, hget "minimum" rfl]
  have hmaximum : u.numberAt? "maximum" = t.numberAt? "maximum" := by
    rw [Tree.numberAt?, Tree.numberAt?, hget "maximum" rfl]
  obtain ⟨hattributes, hread⟩ :=
    attributes_congr (SameRecord.rel h ht.fields "attributes") ht.attributes
  refine ⟨⟨h.isRecord ht.fields, ?_, ?_, ?_, ?_, ?_, ?_, ?_, ?_, ?_, hattributes⟩, ?_⟩
  · exact (requires_congr (hget "name" rfl)).mpr ht.name
  · exact (requires_congr (hget "type" rfl)).mpr ht.type
  · exact (allows_congr (hget "mandatory" rfl)).mpr ht.mandatory
  · exact (allows_congr (hget "default" rfl)).mpr ht.defaultValue
  · exact (allows_congr (hget "secret" rfl)).mpr ht.secret
  · exact (allows_congr (hget "pattern" rfl)).mpr ht.pattern
  · exact (allows_congr (hget "minimum" rfl)).mpr ht.minimum
  · exact (allows_congr (hget "maximum" rfl)).mpr ht.maximum
  · rw [hminimum, hmaximum]
    exact ht.range
  · funext types isLast
    simp only [propertyReading, Reading.property, Tree.declaredName, Tree.textAt, Tree.field,
      Tree.booleanAt?, Tree.scalarAt?, hget "name" rfl, hget "type" rfl, hget "mandatory" rfl,
      hget "default" rfl, hget "secret" rfl, hget "pattern" rfl, hminimum, hmaximum, hread]

/-! ### Objects -/

/-- What is read of an object, once its position and the rest of the definition are known, and
the names of the objects that its links lead to. -/
def objectReading (t : Tree) : (Tree → Nat → Object) × List String :=
  (fun d position => Reading.object d position t, (t.itemsAt "links").map (·.textAt "target"))

/-- Items that are read alike, whether they are the last or not. -/
theorem marked_congr {α : Type} {f : Tree → Bool → α} {ts us : List Tree}
    (h : us.map f = ts.map f) :
    Reading.marked (fun _ isLast t => f t isLast) us =
      Reading.marked (fun _ isLast t => f t isLast) ts := by
  have hlength : us.length = ts.length := by simpa using congrArg List.length h
  have hmarked : ∀ vs : List Tree, Reading.marked (fun _ isLast t => f t isLast) vs =
      ((vs.map f).zipIdx 1).map fun (read, position) => read (position == vs.length) := by
    intro vs
    rw [Reading.marked, List.zipIdx_map, List.map_map]
    rfl
  rw [hmarked, hmarked, h, hlength]

theorem respects_object (options : LoadOptions) (types objects : List String) :
    Respects SameObject (IsObject options types objects) objectReading := by
  intro t u h ht
  have hname : u.get? "name" = t.get? "name" := SameRecord.get? h ht.fields rfl
  have hrel := SameRecord.rel h ht.fields
  obtain ⟨hattributes, hread⟩ := attributes_congr (hrel "attributes") ht.attributes
  obtain ⟨hproperties, hpropertyList⟩ :=
    (respects_property types).requires_items (hrel "properties") ht.properties
  obtain ⟨hlinks, hlinkList⟩ := (respects_link objects).allows_items (hrel "links") ht.links
  obtain ⟨hindexes, hindexList⟩ := (respects_index _ _).allows_items (hrel "indexes") ht.indexes
  -- A name is part of what is read of an item, so the names are the same ones.
  have hpropertyNames : u.namesAt "properties" = t.namesAt "properties" :=
    map_comp_congr hpropertyList fun read => (read [] false).name
  have hlinkNames : u.namesAt "links" = t.namesAt "links" :=
    map_comp_congr hlinkList fun read => (read.2 [] 0).name
  have hindexNames : u.namesAt "indexes" = t.namesAt "indexes" :=
    map_comp_congr hindexList fun read => (read 0 [] []).name
  refine ⟨{
    fields := h.isRecord ht.fields
    name := (requires_congr hname).mpr ht.name
    properties := hproperties
    attributes := hattributes
    links := hlinks
    linkNames := by rw [hlinkNames]; exact ht.linkNames
    indexes := by rw [hpropertyNames, hlinkNames]; exact hindexes
    indexNames := by rw [hindexNames]; exact ht.indexNames }, Prod.ext ?_ ?_⟩
  · funext d position
    have hdeclared : u.declaredName = t.declaredName := Tree.textAt_congr hname
    have hproperties : Reading.properties (Reading.typeNames d) u =
        Reading.properties (Reading.typeNames d) t :=
      marked_congr (map_comp_congr hpropertyList fun read => read (Reading.typeNames d))
    have hlinks : Reading.links (d.namesAt "objects") position u =
        Reading.links (d.namesAt "objects") position t :=
      map_comp_congr hlinkList fun read => read.2 (d.namesAt "objects") position
    have hindexes : Reading.indexes position u = Reading.indexes position t := by
      rw [Reading.indexes, Reading.indexes, hpropertyNames, hlinkNames]
      exact map_comp_congr hindexList fun read => read position _ _
    change Reading.object d position u = Reading.object d position t
    rw [Reading.object, Reading.object, hdeclared, hproperties, hlinks, hindexes, hread]
  · exact map_comp_congr hlinkList Prod.fst

/-! ### Definitions -/

/-- The reverse links of an object need of the objects what has been read of them. -/
theorem reverseLinks_congr {ts us : List Tree} (h : us.map objectReading = ts.map objectReading)
    (target : String) : Reading.reverseLinks us target = Reading.reverseLinks ts target := by
  have hrows : ∀ vs : List Tree, Reading.reverseLinks vs target =
      ((vs.map fun t => (objectReading t).2).zipIdx.flatMap fun (names, i) =>
        (names.zipIdx.filter fun (name, _) => name == target).map fun (_, j) => ⟨i, j⟩) := by
    intro vs
    rw [Reading.reverseLinks, List.zipIdx_map, List.flatMap_map]
    refine List.flatMap_congr fun x _ => ?_
    change _ = (((x.1.itemsAt "links").map (·.textAt "target")).zipIdx.filter _).map _
    rw [List.zipIdx_map, List.filter_map, List.map_map]
    rfl
  rw [hrows, hrows, map_comp_congr h Prod.snd]

/-- **A reordered definition belongs to the grammar, and describes the same project.** -/
theorem project_reordered {options : LoadOptions} {d e : Tree} (h : SameDefinition d e)
    (he : TypesFirst e) (hd : IsDefinition options d) :
    IsDefinition options e ∧ Reading.project e = Reading.project d := by
  have hrel := SameRecord.rel h hd.fields
  have hname : e.get? "name" = d.get? "name" := SameRecord.get? h hd.fields rfl
  obtain ⟨hattributes, hread⟩ := attributes_congr (hrel "attributes") hd.attributes
  obtain ⟨hdataTypes, htypeList⟩ :=
    respects_dataType.allows_items (hrel "datatypes") hd.dataTypes
  obtain ⟨hobjects, hobjectList⟩ :=
    (respects_object _ _ _).requires_items (hrel "objects") hd.objects
  obtain ⟨hfiles, hfileList⟩ := respects_file.requires_items (hrel "files") hd.files
  have htypeNames : Reading.typeNames e = Reading.typeNames d :=
    congrArg (Reading.builtinNames ++ ·) (map_comp_congr htypeList DataType.name)
  have hobjectNames : e.namesAt "objects" = d.namesAt "objects" :=
    map_comp_congr hobjectList fun read => (read.1 d 0).name
  -- All types are visible now, among them those that were visible before.
  have hvisible : visibleTypes d ⊆ visibleTypes e := by
    have hall : visibleTypes e = Reading.typeNames e :=
      congrArg (Reading.builtinNames ++ ·) (Tree.namesAt_congr he.symm).symm
    rw [hall, htypeNames]
    exact (Load.visibleTypes_initial d).subset
  -- An object sees of the definition around it the names and the links of all objects only.
  have hobject : ∀ i t, Reading.object e i t = Reading.object d i t := by
    intro i t
    rw [Reading.object, Reading.object, htypeNames, hobjectNames, reverseLinks_congr hobjectList]
  have hprojectObjects : (Reading.project e).objects = (Reading.project d).objects := by
    have hread : ∀ v : Tree, ((v.itemsAt "objects").zipIdx.map fun x =>
        Reading.object d x.2 x.1) = ((v.itemsAt "objects").map objectReading).zipIdx.map
          fun x => x.1.1 d x.2 := by
      intro v
      rw [List.zipIdx_map, List.map_map]
      rfl
    simp only [Reading.project, hobject]
    rw [hread, hread, hobjectList]
  refine ⟨{
    fields := h.isRecord hd.fields
    name := (requires_congr hname).mpr hd.name
    dataTypes := hdataTypes
    typeNames := by rw [htypeNames]; exact hd.typeNames
    attributes := hattributes
    objects := by
      rw [hobjectNames]
      exact hobjects.imp fun _ hlist => hlist.imp fun _ ht => ht.mono hvisible (List.Subset.refl _)
    objectNames := by rw [hobjectNames]; exact hd.objectNames
    files := hfiles }, ?_⟩
  have hdeclared : e.declaredName = d.declaredName := Tree.textAt_congr hname
  calc Reading.project e
      = { Reading.project e with objects := (Reading.project d).objects } := by
        rw [← hprojectObjects]
    _ = Reading.project d := by
        rw [Reading.project, Reading.project, hdeclared, hread, htypeList, hfileList]

end Reordering

namespace Load

open Grammar Reordering

/-- **The order of fields does not matter.** A definition that loads, with the fields of its
fragments in another order at any depth, loads as the same project, if its types stand before
its objects. -/
theorem load_reordered {options : LoadOptions} {d e : Tree} {p : Project}
    (h : load options d = .ok p) (hsame : SameDefinition d e) (he : TypesFirst e) :
    load options e = .ok p := by
  obtain ⟨hd, rfl⟩ := (load_yields options d p).mp h
  obtain ⟨hgrammar, hproject⟩ := project_reordered hsame he hd
  rw [← hproject]
  exact (load_yields options e).eq_ok hgrammar

/-- The shop with the fields of all its fragments turned round, and its types before its objects
still. -/
def turnedShop : Tree := .mapping [
  ("files", .sequence [.mapping [("output", .string "model.txt"), ("input", .string "model.hbs"),
    ("scope", .string "object")]]),
  ("name", .string " shop "),
  ("datatypes", .sequence [.mapping [
    ("values", .sequence [.string "open", .mapping [("value", .string " closed")]]),
    ("type", .string "enumeration"), ("name", .string "status")]]),
  ("objects", .sequence [
    .mapping [("indexes", .sequence [.mapping [
        ("keys", .sequence [.mapping [("property", .string "id")],
          .mapping [("link", .string "best ")]]), ("name", .string "main")]]),
      ("properties", .sequence [
        .mapping [("type", .string "id"), ("name", .string "id")],
        .mapping [("name", .string "id"), ("type", .string "status")]]),
      ("links", .sequence [
        .mapping [("target", .string " Post"), ("name", .string "best")],
        .mapping [("mandatory", .boolean false), ("target", .string "User"),
          ("name", .string "boss")]]),
      ("name", .string "User")],
    .mapping [
      ("links", .sequence [.mapping [("target", .string "User"), ("name", .string "author")]]),
      ("properties", .sequence [.mapping [("type", .string "id"), ("name", .string "id")]]),
      ("name", .string "Post")]])]

theorem load_reordered_shop :
    SameDefinition shop turnedShop ∧ TypesFirst turnedShop ∧
      ∃ p, load .default shop = .ok p ∧ load .default turnedShop = .ok p := by
  have hfragment : ∀ entries, SameFragment (.mapping entries) (.mapping entries.reverse) :=
    fun entries => SameRecord.of_perm (fun _ _ => rfl) (List.reverse_perm entries).symm
  have hproperty : ∀ entries, SameProperty (.mapping entries) (.mapping entries.reverse) :=
    fun entries => SameRecord.of_perm PropertyField.refl (List.reverse_perm entries).symm
  have hsame : SameDefinition shop turnedShop := by
    have hperm : ∀ a b c e : String × Tree, [a, b, c, e].Perm [e, a, b, c] :=
      fun a b c e => (List.perm_append_singleton e [a, b, c])
    refine ⟨_, _, _, rfl, rfl, hperm _ _ _ _, ?_⟩
    refine .cons ⟨rfl, ?files⟩ (.cons ⟨rfl, rfl⟩ (.cons ⟨rfl, ?types⟩ (.cons ⟨rfl, ?objects⟩ .nil)))
    case files => exact ⟨_, _, rfl, rfl, .cons (hfragment _) .nil⟩
    case types => exact ⟨_, _, rfl, rfl, .cons (hfragment _) .nil⟩
    case objects =>
      refine ⟨_, _, rfl, rfl, .cons ?user (.cons ?post .nil)⟩
      case user =>
        refine ⟨_, _, _, rfl, rfl, (List.reverse_perm _).symm, ?_⟩
        refine .cons ⟨rfl, ?indexes⟩ (.cons ⟨rfl, ?properties⟩ (.cons ⟨rfl, ?links⟩
          (.cons ⟨rfl, rfl⟩ .nil)))
        case indexes => exact ⟨_, _, rfl, rfl, .cons (hfragment _) .nil⟩
        case properties =>
          exact ⟨_, _, rfl, rfl, .cons (hproperty _) (.cons (hproperty _) .nil)⟩
        case links => exact ⟨_, _, rfl, rfl, .cons (hfragment _) (.cons (hfragment _) .nil)⟩
      case post =>
        refine ⟨_, _, _, rfl, rfl, (List.reverse_perm _).symm, ?_⟩
        refine .cons ⟨rfl, ?links⟩ (.cons ⟨rfl, ?properties⟩ (.cons ⟨rfl, rfl⟩ .nil))
        case links => exact ⟨_, _, rfl, rfl, .cons (hfragment _) .nil⟩
        case properties => exact ⟨_, _, rfl, rfl, .cons (hproperty _) .nil⟩
  have htypes : TypesFirst turnedShop := rfl
  exact ⟨hsame, htypes, _, load_shop, load_reordered load_shop hsame htypes⟩

end Load

end Blueprint
