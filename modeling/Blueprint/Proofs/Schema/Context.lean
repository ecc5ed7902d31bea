import Blueprint.Proofs.Project.Integrity
import Blueprint.Proofs.Render.Course
import Blueprint.Proofs.Schema.Meaning

/-!
# The schema describes template data

The schema of template data and the data itself are made separately: the one from a table of
records, `Blueprint.Schema.viewRecords`, the other by the functions that show a project to
templates. They agree. For every object of a loaded project the schema describes what a template
is expanded with, in the closed form, so that the data holds no key that the schema does not list
(`Blueprint.Load.context_described`).

Each kind of view has one lemma, that it is a record of its name in the table. All of them but
the first few ask where the view comes from, since the attributes in a view may be any entries and
those of a project are scalars.

| record | lemma |
|---|---|
| `NameRef`, `DataTypeView`, `FileView` | `nameView`, `dataTypeView`, `fileView` |
| `PropertyView`, `LinkView` | `propertyView`, `linkView` |
| `IndexKeyView`, `IndexView` | `indexKeyView`, `indexView` |
| `ObjectView`, `ProjectView` | `objectView`, `projectView` |
-/

namespace Blueprint

namespace Schema

/-! ### Records of the schema -/

/-- A value is a record of a name, as the schema of template data has it. -/
abbrev IsRecord : String → Tree → Prop := Defines contextSchema

/-- The record of a name in the table. -/
def record? (name : String) : Option RecordType := viewRecords.find? fun r => r.name == name

/-- The schema defines the records of the table. -/
theorem follow?_definitions (name : String) : contextSchema.follow? ["definitions", name] =
    (record? name).map fun r => .mapping r.entries := by
  have hdefinitions : contextSchema.get? "definitions" =
      some (.mapping (viewRecords.map fun r => (r.name, .mapping r.entries))) := rfl
  rw [Tree.follow?, hdefinitions]
  change (Tree.lookup? (viewRecords.map fun r => (r.name, .mapping r.entries)) name >>=
    fun t => some t) = _
  rw [Option.bind_eq_bind, Option.bind_fun_some, Tree.lookup?, List.find?_map, Option.map_map,
    record?]
  rfl

/-- **A mapping is a record of the table** when its entries are those of the fields. -/
theorem isRecord_of_entered {name : String} {r : RecordType} {entries : Entries}
    (hr : record? name = some r) (h : r.Entered IsRecord entries)
    (hcomplete : r.isComplete entries = true) : IsRecord name (.mapping entries) := by
  refine ⟨.mapping r.entries, ?_, describes_record h hcomplete⟩
  rw [follow?_definitions, hr, Option.map_some]

/-- Values that have been shown one by one. -/
theorem holds_map {α : Type} {items : FieldType} {toTree : α → Tree} {xs : List α}
    (h : ∀ x ∈ xs, items.Holds IsRecord (toTree x)) :
    (FieldType.list items).Holds IsRecord (.sequence (xs.map toTree)) :=
  ⟨_, rfl, List.forall_mem_map.mpr h⟩

/-- Views that have been made one by one are those of the things that they show. -/
theorem map_some_of_mapM {α β : Type} {f : α → Option β} {xs : List α} {ys : List β}
    (hys : xs.mapM f = some ys) : ys.map some = xs.map f :=
  Render.map_eq_map_of_mapM (fun h => h.symm) hys

/-- A condition on views that have been made one by one. -/
theorem forall_mem_of_mapM {α β : Type} {f : α → Option β} {P : β → Prop}
    (h : ∀ a b, f a = some b → P b) {xs : List α} {ys : List β} (hys : xs.mapM f = some ys) :
    ∀ y ∈ ys, P y := by
  intro y hy
  obtain ⟨x, -, hx⟩ := List.mem_map.mp (map_some_of_mapM hys ▸ List.mem_map_of_mem hy)
  exact h x y hx

/-! ### Views -/

theorem nameView (v : NameView) : IsRecord "NameRef" v.toTree :=
  isRecord_of_entered rfl (.cons rfl ⟨_, rfl⟩ .nil) rfl

theorem dataTypeView (v : DataTypeView) : IsRecord "DataTypeView" v.toTree :=
  isRecord_of_entered rfl (.cons rfl ⟨_, rfl⟩ (.cons rfl ⟨_, rfl⟩
    (.cons rfl (holds_map fun s _ => ⟨s, rfl⟩) (.cons rfl ⟨_, rfl⟩ .nil)))) rfl

theorem fileView (v : FileView) : IsRecord "FileView" v.toTree :=
  isRecord_of_entered rfl (.cons rfl ⟨_, rfl⟩ (.cons rfl ⟨_, rfl⟩ (.cons rfl ⟨_, rfl⟩ .nil))) rfl

theorem linkView (v : LinkView) : IsRecord "LinkView" v.toTree :=
  isRecord_of_entered rfl (.cons rfl ⟨_, rfl⟩ (.cons rfl (nameView v.source)
    (.cons rfl (nameView v.target) (.cons rfl ⟨_, rfl⟩ .nil)))) rfl

theorem indexKeyView (v : IndexKeyView) : IsRecord "IndexKeyView" v.toTree :=
  isRecord_of_entered rfl (.cons rfl ⟨_, rfl⟩ (.cons rfl ⟨_, rfl⟩
    (.cons rfl (nameView v.reference) (.cons rfl ⟨_, rfl⟩ .nil)))) rfl

theorem indexView (v : IndexView) : IsRecord "IndexView" v.toTree :=
  isRecord_of_entered rfl (.cons rfl ⟨_, rfl⟩ (.cons rfl ⟨_, rfl⟩
    (.cons rfl (holds_map fun k _ => indexKeyView k) .nil))) rfl

/-- The attributes of an entity are shown as scalars. -/
theorem isLeaf_attributesView (m : AttributeMap) : ∀ entry ∈ attributesView m, entry.2.IsLeaf := by
  have hput : ∀ {key : String} {value : Tree} {entries : Entries}, value.IsLeaf →
      (∀ entry ∈ entries, entry.2.IsLeaf) →
      ∀ entry ∈ putEntry key value entries, entry.2.IsLeaf := by
    intro key value entries hvalue hentries
    induction entries with
    | nil => exact List.forall_mem_singleton.mpr hvalue
    | cons entry entries ih =>
      obtain ⟨hentry, hrest⟩ := List.forall_mem_cons.mp hentries
      rw [putEntry]
      split
      · exact List.forall_mem_cons.mpr ⟨hvalue, hrest⟩
      · exact List.forall_mem_cons.mpr ⟨hentry, ih hrest⟩
  have hfold : ∀ rest done : Entries, (∀ entry ∈ rest, entry.2.IsLeaf) →
      (∀ entry ∈ done, entry.2.IsLeaf) →
      ∀ entry ∈ rest.foldl (fun done entry => putEntry entry.1 entry.2 done) done,
        entry.2.IsLeaf := by
    intro rest
    induction rest with
    | nil => exact fun done _ hdone => hdone
    | cons entry rest ih =>
      intro done hrest hdone
      obtain ⟨hentry, hrest⟩ := List.forall_mem_cons.mp hrest
      exact ih _ hrest (hput hentry hdone)
  refine hfold _ [] (List.forall_mem_map.mpr fun entry _ => ?_) fun _ h => nomatch h
  cases entry.2 <;> trivial

/-- A value that may be null, and is a scalar otherwise. -/
theorem isLeaf_optionTree {α : Type} {toTree : α → Tree} (h : ∀ a, (toTree a).IsLeaf)
    (x : Option α) : (optionTree toTree x).IsLeaf := by
  cases x with
  | none => trivial
  | some a => exact h a

variable {p : Project}

theorem propertyView {q : Property} {v : PropertyView} (h : PropertyView.ofProperty? p q = some v) :
    IsRecord "PropertyView" v.toTree := by
  obtain ⟨type, -, hv⟩ := Option.bind_eq_some_iff.mp h
  obtain rfl := Option.some.inj hv
  have hdefault : (optionTree Scalar.toTree q.defaultValue).IsLeaf :=
    isLeaf_optionTree (fun s => by cases s <;> trivial) _
  have hpattern : FieldType.optionalString.Holds IsRecord (optionTree .string q.pattern) := by
    cases q.pattern with
    | none => exact .inl rfl
    | some s => exact .inr ⟨s, rfl⟩
  have hbound : ∀ n : Option Number, (optionTree Tree.number n).IsLeaf :=
    isLeaf_optionTree fun _ => trivial
  exact isRecord_of_entered rfl (.cons rfl ⟨_, rfl⟩ (.cons rfl (dataTypeView _)
    (.cons rfl ⟨_, rfl⟩ (.cons rfl ⟨_, rfl⟩ (.cons rfl hdefault (.cons rfl hpattern
    (.cons rfl (hbound _) (.cons rfl (hbound _)
    (.cons rfl ⟨_, rfl, isLeaf_attributesView q.attributes⟩ (.cons rfl ⟨_, rfl⟩ .nil)))))))))) rfl

theorem objectView {o : Object} {v : ObjectView} (h : ObjectView.ofObject? p o = some v) :
    IsRecord "ObjectView" v.toTree := by
  obtain ⟨properties, hproperties, h⟩ := Option.bind_eq_some_iff.mp h
  obtain ⟨links, -, h⟩ := Option.bind_eq_some_iff.mp h
  obtain ⟨reverseLinks, -, h⟩ := Option.bind_eq_some_iff.mp h
  obtain ⟨indexes, -, h⟩ := Option.bind_eq_some_iff.mp h
  obtain rfl := Option.some.inj h
  have hall : ∀ q ∈ properties, IsRecord "PropertyView" q.toTree :=
    forall_mem_of_mapM (fun _ _ hq => propertyView hq) hproperties
  exact isRecord_of_entered rfl (.cons rfl ⟨_, rfl⟩ (.cons rfl (holds_map hall)
    (.cons rfl (holds_map fun l _ => linkView l) (.cons rfl (holds_map fun l _ => linkView l)
    (.cons rfl (holds_map fun x _ => indexView x)
    (.cons rfl ⟨_, rfl, isLeaf_attributesView o.attributes⟩ .nil)))))) rfl

theorem projectView {v : ProjectView} (h : ProjectView.ofProject? p = some v) :
    IsRecord "ProjectView" v.toTree := by
  obtain ⟨objects, hobjects, h⟩ := Option.bind_eq_some_iff.mp h
  obtain rfl := Option.some.inj h
  have hall : ∀ o ∈ objects, IsRecord "ObjectView" o.toTree :=
    forall_mem_of_mapM (fun _ _ ho => objectView ho) hobjects
  exact isRecord_of_entered rfl (.cons rfl ⟨_, rfl⟩
    (.cons rfl ⟨_, rfl, isLeaf_attributesView p.attributes⟩
    (.cons rfl (holds_map fun t _ => dataTypeView t) (.cons rfl (holds_map hall)
    (.cons rfl (holds_map fun f _ => fileView f) .nil))))) rfl

/-! ### Template data -/

/-- **The schema describes the data of a template** that is expanded for an object. -/
theorem describes_objectContext {o : Object} {view : ProjectView} {object : ObjectView}
    (hview : ProjectView.ofProject? p = some view)
    (hobject : ObjectView.ofObject? p o = some object) :
    Describes true contextSchema contextSchema (objectContext view object) := by
  have hentered : objectScope.Entered IsRecord
      [("project", view.toTree), ("object", object.toTree)] :=
    .cons rfl (projectView hview) (.cons rfl (objectView hobject) .nil)
  exact describes_annotated (by decide) (by decide) rfl (describes_record hentered rfl)

/-- **The schema is that of data with an object.** The data of a template that is expanded once,
for the project, is another matter. -/
theorem not_describes_projectContext (closed : Bool) (view : ProjectView) :
    ¬Describes closed contextSchema contextSchema (projectContext view) := by
  intro h
  obtain ⟨keys, hkeys, hall⟩ := Describes.hasKeys h rfl rfl
  have hrequired : objectScope.required = keys :=
    List.map_injective_iff.mpr (fun _ _ => Tree.string.inj) (Tree.sequence.inj hkeys)
  have hobject : "object" ∈ keys := hrequired ▸ List.mem_cons_self
  exact absurd (hall _ rfl "object" hobject) (by decide : "object" ∉ ["project"])

/-- Every object is shown in the view of its project. -/
theorem exists_objectView {o : Object} {view : ProjectView}
    (hview : ProjectView.ofProject? p = some view) (ho : o ∈ p.objects) :
    ∃ object ∈ view.objects, ObjectView.ofObject? p o = some object := by
  obtain ⟨objects, hobjects, h⟩ := Option.bind_eq_some_iff.mp hview
  obtain rfl := Option.some.inj h
  have hmem : ObjectView.ofObject? p o ∈ objects.map some := by
    rw [map_some_of_mapM hobjects]
    exact List.mem_map_of_mem ho
  obtain ⟨object, hobject, heq⟩ := List.mem_map.mp hmem
  exact ⟨object, hobject, heq.symm⟩

end Schema

namespace Load

open Schema

/-- **The schema describes what templates see.** A loaded project is shown to templates with each
of its objects in turn, and every time the schema describes the data, also in the closed form: all
that it requires is there, and there is no key in the data that it does not list, other than the
names of attributes. -/
theorem context_described {options : LoadOptions} {d : Tree} {p : Project}
    (h : load options d = .ok p) {o : Object} (ho : o ∈ p.objects) :
    ∃ view object, ProjectView.ofProject? p = some view ∧ ObjectView.ofObject? p o = some object ∧
      (some object.name, objectContext view object) ∈ Render.contexts view .object ∧
      Describes false contextSchema contextSchema (objectContext view object) ∧
      Describes true contextSchema contextSchema (objectContext view object) := by
  obtain ⟨hd, rfl⟩ := (load_yields options d p).mp h
  obtain ⟨view, hview⟩ := Option.isSome_iff_exists.mp (intact_project hd).total.isSome_view
  obtain ⟨object, hmem, hobject⟩ := exists_objectView hview ho
  have hdescribed := describes_objectContext hview hobject
  exact ⟨view, object, hview, hobject, List.mem_map_of_mem hmem, hdescribed.lenient, hdescribed⟩

theorem context_described_shop : ∃ o view object, o ∈ (Reading.project shop).objects ∧
    ObjectView.ofObject? (Reading.project shop) o = some object ∧ object.name = "User" ∧
    Describes true contextSchema contextSchema (objectContext view object) := by
  have hfirst : (Reading.project shop).objects[0]?.map (·.name) = some "User" := by decide +kernel
  obtain ⟨o, ho, hname⟩ := Option.map_eq_some_iff.mp hfirst
  have hmem := List.mem_of_getElem? ho
  obtain ⟨view, object, -, hobject, -, -, hdescribed⟩ := context_described load_shop hmem
  exact ⟨o, view, object, hmem, hobject, (Render.name_of_objectView hobject).trans hname,
    hdescribed⟩

end Load

end Blueprint
