import Blueprint.Proofs.Load.FieldOrder
import Blueprint.Proofs.Project.WellFormed

/-!
# Writing a project down

The definition of a project, written field by field: `Blueprint.Project.definition`. Nothing is
left to a default, every reference is given by the name of what it leads to, and reverse links are
not written at all. Every kind of fragment is a `Blueprint.Writing.record`, that is a table of its
fields of which some may be empty, and has two lemmas beside it: the fragment belongs to the
grammar, and reading it gives the part of the project back.

| fragment | is one of the grammar | is read back |
|---|---|---|
| attributes | `Blueprint.Load.isAttributes_toTree` | `Blueprint.Load.attributes_toTree` |
| data type | `Blueprint.Load.isDataType_dataType` | `Blueprint.Load.reading_dataType` |
| property | `Blueprint.Load.isProperty_property` | `Blueprint.Load.reading_property` |
| link | `Blueprint.Load.isLink_link` | `Blueprint.Load.reading_link` |
| file | `Blueprint.Load.isFile_file` | `Blueprint.Load.reading_file` |

Names stand for positions here, so two things are asked of them. A name must be trimmed, or it
would not be read back as it was written, and it must be the first of its kind, or it would be
read back as another position. Indexes, objects and whole definitions, which are made of these
fragments, are the subject of `Blueprint.Proofs.Project.Definition`.
-/

namespace Blueprint

open Grammar

/-! ### Names in place of positions -/

/-- The names of the types, by position. -/
abbrev Project.typeNames (p : Project) : List String := p.dataTypes.map (·.name)

/-- The names of the objects, by position. -/
abbrev Project.objectNames (p : Project) : List String := p.objects.map (·.name)

/-- The names of the properties, by position. -/
abbrev Object.propertyNames (o : Object) : List String := o.properties.map (·.name)

/-- The names of the links, by position. -/
abbrev Object.linkNames (o : Object) : List String := o.links.map (·.name)

/-! ### Records -/

namespace Writing

/-- The mapping of those fields that have a value. -/
def record (fields : List String) (value : String → Option Tree) : Tree :=
  .mapping (fields.filterMap fun key => (value key).map fun v => (key, v))

section Records

variable {fields : List String} {value : String → Option Tree} {key : String} {v : Tree}

theorem keys_record_sublist (fields : List String) (value : String → Option Tree) :
    ((fields.filterMap fun key => (value key).map fun v => (key, v)).map (·.1)).Sublist fields := by
  induction fields with
  | nil => exact .slnil
  | cons key fields ih =>
    rw [List.filterMap_cons]
    cases value key with
    | none => exact ih.cons key
    | some v => exact ih.cons_cons key

theorem isRecord_record (h : fields.Nodup) : IsRecord fields (record fields value) :=
  ⟨_, rfl, h.sublist (keys_record_sublist fields value),
    fun _ hkey => (keys_record_sublist fields value).subset hkey⟩

/-- **What stands under a field of a record.** -/
theorem get?_record (h : fields.Nodup) (hkey : key ∈ fields) :
    (record fields value).get? key = value key := by
  refine Option.ext fun v => ?_
  rw [record, Tree.get?_mapping,
    Tree.lookup?_eq_some_iff (h.sublist (keys_record_sublist fields value)), List.mem_filterMap]
  constructor
  · rintro ⟨k, -, hk⟩
    obtain ⟨w, hw, heq⟩ := Option.map_eq_some_iff.mp hk
    obtain ⟨rfl, rfl⟩ := Prod.mk.inj heq
    exact hw
  · intro hv
    exact ⟨key, hkey, by rw [hv, Option.map_some]⟩

end Records

/-! ### Fragments -/

/-- What the declaration of a type says under each field. -/
def dataTypeField (t : DataType) : String → Option Tree
  | "name" => some (.string t.name)
  | "type" => some (.string t.kind.text)
  | "values" => some (.sequence (t.values.map .string))
  | _ => none

def dataType (t : DataType) : Tree := record ["name", "type", "values"] (dataTypeField t)

/-- What a property says under each field, its type by name. -/
def propertyField (types : List String) (q : Property) : String → Option Tree
  | "name" => some (.string q.name)
  | "type" => some (.string (types.getD q.dataType ""))
  | "mandatory" => some (.boolean q.mandatory)
  | "default" => q.defaultValue.map Scalar.toTree
  | "secret" => some (.boolean q.secret)
  | "pattern" => q.pattern.map .string
  | "minimum" => q.minimum.map .number
  | "maximum" => q.maximum.map .number
  | "attributes" => some q.attributes.toTree
  | _ => none

def property (types : List String) (q : Property) : Tree :=
  record ["name", "type", "mandatory", "default", "secret", "pattern", "minimum", "maximum",
    "attributes"] (propertyField types q)

/-- What a link says under each field, its target by name. -/
def linkField (objects : List String) (l : Link) : String → Option Tree
  | "name" => some (.string l.name)
  | "target" => some (.string (objects.getD l.target ""))
  | "mandatory" => some (.boolean l.mandatory)
  | _ => none

def link (objects : List String) (l : Link) : Tree :=
  record ["name", "target", "mandatory"] (linkField objects l)

/-- A key, by the name of what it refers to. -/
def key (properties links : List String) : KeyReference → Tree
  | .property h => .mapping [("property", .string (properties.getD h.position ""))]
  | .link h => .mapping [("link", .string (links.getD h.position ""))]

/-- What an index says under each field. -/
def indexField (properties links : List String) (x : Index) : String → Option Tree
  | "name" => some (.string x.name)
  | "unique" => some (.boolean x.unique)
  | "keys" => some (.sequence (x.keys.map fun k => key properties links k.reference))
  | _ => none

def index (properties links : List String) (x : Index) : Tree :=
  record ["name", "unique", "keys"] (indexField properties links x)

/-- What an object says under each field. -/
def objectField (types objects : List String) (o : Object) : String → Option Tree
  | "name" => some (.string o.name)
  | "properties" => some (.sequence (o.properties.map (property types)))
  | "attributes" => some o.attributes.toTree
  | "links" => some (.sequence (o.links.map (link objects)))
  | "indexes" =>
    some (.sequence (o.indexes.map (index o.propertyNames o.linkNames)))
  | _ => none

def object (types objects : List String) (o : Object) : Tree :=
  record ["name", "properties", "attributes", "links", "indexes"] (objectField types objects o)

/-- What a file declaration says under each field. -/
def fileField (f : OutputFile) : String → Option Tree
  | "scope" => some (.string f.scope.text)
  | "input" => some (.string f.input)
  | "output" => some (.string f.output)
  | _ => none

def file (f : OutputFile) : Tree := record ["scope", "input", "output"] (fileField f)

end Writing

/-- What the definition of a project says under each field. -/
def Project.definitionField (p : Project) : String → Option Tree
  | "name" => some (.string p.name)
  | "datatypes" => some (.sequence (p.userDataTypes.map Writing.dataType))
  | "attributes" => some p.attributes.toTree
  | "objects" => some (.sequence (p.objects.map
      (Writing.object p.typeNames p.objectNames)))
  | "files" => some (.sequence (p.files.map Writing.file))
  | _ => none

/-- **The definition of a project**, its types before its objects. -/
def Project.definition (p : Project) : Tree :=
  Writing.record ["name", "datatypes", "attributes", "objects", "files"] p.definitionField

/-! ### Values under a field -/

namespace Tree

variable {t : Tree} {key : String} {v : Tree}

theorem field_of_get? (h : t.get? key = some v) : t.field key = v := by
  rw [field, h, Option.getD_some]

theorem itemsAt_of_get? {ts : List Tree} (h : t.get? key = some (.sequence ts)) :
    t.itemsAt key = ts := by
  rw [itemsAt, field_of_get? h, items]

theorem trimmed_string {s : String} (hs : IsTrimmed s) : (Tree.string s).trimmed = s := hs.2

theorem textAt_of_get? {s : String} (h : t.get? key = some (.string s)) (hs : IsTrimmed s) :
    t.textAt key = s := by
  rw [textAt, field_of_get? h, trimmed_string hs]

theorem booleanAt?_of_get? {b : Bool} (h : t.get? key = some (.boolean b)) :
    t.booleanAt? key = some b := by
  rw [booleanAt?, h]
  rfl

theorem numberAt?_of_get? {n : Option Number} (h : t.get? key = n.map .number) :
    t.numberAt? key = n := by
  rw [numberAt?, h]
  cases n <;> rfl

theorem scalarAt?_of_get? {s : Option Scalar} (h : t.get? key = s.map Scalar.toTree) :
    t.scalarAt? key = s := by
  rw [scalarAt?, h]
  obtain _ | (_ | _ | _) := s <;> rfl

end Tree

namespace Grammar

variable {t : Tree} {key : String} {v : Tree} {P : Tree → Prop}

theorem isText_string {s : String} (h : IsTrimmed s) : IsText (.string s) :=
  ⟨s, rfl, by rw [h.2]; exact h.1⟩

theorem isIdentifier_string {s : String} (h : IsName s) : IsIdentifier (.string s) :=
  ⟨isText_string h.isTrimmed, by rw [Tree.trimmed_string h.isTrimmed]; exact h.2⟩

theorem isOneOf_string {texts : List String} {s : String} (h : IsTrimmed s) (hs : s ∈ texts) :
    IsOneOf texts (.string s) :=
  ⟨isText_string h, by rwa [Tree.trimmed_string h]⟩

theorem requires_of_get? (h : t.get? key = some v) (hP : P v) : Requires t key P := ⟨v, h, hP⟩

theorem allows_of_get? (h : t.get? key = some v) (hP : P v) : Allows t key P :=
  fun _ hw => Option.some.inj (h.symm.trans hw) ▸ hP

theorem allows_of_get?_map {α : Type} {x : Option α} {f : α → Tree} (h : t.get? key = x.map f)
    (hP : ∀ a, x = some a → P (f a)) : Allows t key P := by
  intro w hw
  obtain ⟨a, ha, rfl⟩ := Option.map_eq_some_iff.mp (h.symm.trans hw)
  exact hP a ha

/-- Items that have been written one by one. -/
theorem isSequenceOf_map {α : Type} {xs : List α} {f : α → Tree} (h : ∀ x ∈ xs, P (f x)) :
    IsSequenceOf P (.sequence (xs.map f)) :=
  ⟨_, rfl, List.forall_mem_map.mpr h⟩

theorem isNonemptySequenceOf_map {α : Type} {xs : List α} {f : α → Tree} (hne : xs ≠ [])
    (h : ∀ x ∈ xs, P (f x)) : IsNonemptySequenceOf P (.sequence (xs.map f)) :=
  ⟨isSequenceOf_map h, fun hnil => hne (List.map_eq_nil_iff.mp hnil)⟩

end Grammar

namespace Load

/-! ### Positions and their names -/

section Positions

variable {names : List String} {i : Nat}

theorem getElem?_eq_some_getD (h : i < names.length) : names[i]? = some (names.getD i "") := by
  rw [List.getD_eq_getElem?_getD, List.getElem?_eq_getElem h, Option.getD_some]

theorem getD_mem (h : i < names.length) : names.getD i "" ∈ names :=
  List.mem_of_getElem? (getElem?_eq_some_getD h)

/-- Among distinct names, the name at a position leads back there. -/
theorem idxOf_getD (hnames : names.Nodup) (h : i < names.length) :
    names.idxOf (names.getD i "") = i :=
  (idxOf_eq_iff hnames (getElem?_eq_some_getD h) (getD_mem h)).mpr rfl

/-- The first position of a name is led back to whether names are distinct or not. -/
theorem idxOf_getD_idxOf {name : String} (h : name ∈ names) :
    names.idxOf (names.getD (names.idxOf name) "") = names.idxOf name := by
  have hget := List.getElem?_idxOf h
  rw [List.getD_eq_getElem?_getD, hget, Option.getD_some]

end Positions

/-- **A list that has been written item by item** is read back when every item is, at its
position. -/
theorem marked_map {α : Type} {read : Nat → Bool → Tree → α} {write : α → Tree} {xs : List α}
    (h : ∀ j x, xs[j]? = some x → read (j + 1) (j + 1 == xs.length) (write x) = x) :
    Reading.marked read (xs.map write) = xs := by
  refine List.ext_getElem? fun j => ?_
  rw [getElem?_marked, List.getElem?_map, List.length_map]
  cases hx : xs[j]? with
  | none => rfl
  | some x => exact congrArg some (h j x hx)

/-- A mark says whether an item is the last one. -/
theorem beq_eq_mark {mark : Bool} {i n : Nat} (h : mark = true ↔ i = n) : (i == n) = mark := by
  rw [Bool.eq_iff_iff, beq_iff_eq, h]

theorem map_map_eq_self {α : Type} {read : Tree → α} {write : α → Tree} {xs : List α}
    (h : ∀ x ∈ xs, read (write x) = x) : (xs.map write).map read = xs := by
  rw [List.map_map]
  exact (List.map_congr_left h).trans (List.map_id xs)

/-! ### Attributes -/

section Attributes

variable {m : AttributeMap} (hnamed : m.WellNamed) (htrimmed : m.Trimmed)

include htrimmed in
theorem attributeValue_toTree {name : String} {v : Scalar} (h : (name, v) ∈ m.entries) :
    IsAttributeValue v.toTree ∧ Reading.attributeValue v.toTree = v := by
  cases v with
  | boolean b => exact ⟨.inl ⟨b, rfl⟩, rfl⟩
  | number n => exact ⟨.inr (.inl ⟨n, rfl⟩), rfl⟩
  | string s =>
    have hs := htrimmed name s h
    exact ⟨.inr (.inr (isText_string hs)), congrArg Scalar.string hs.2⟩

include hnamed htrimmed

theorem isAttributes_toTree : IsAttributes m.toTree := by
  refine .inl ⟨_, rfl, ?_, ?_⟩
  · rw [List.forall_mem_map]
    exact fun entry hentry => ⟨isIdentifier_string (hnamed.names entry hentry),
      (attributeValue_toTree htrimmed hentry).1⟩
  · rw [List.map_map]
    have hnames : m.entries.map (fun entry => trim entry.1) = m.entries.map (·.1) :=
      List.map_congr_left fun entry hentry => (hnamed.names entry hentry).isTrimmed.2
    exact hnames ▸ hnamed.distinct

/-- **Attributes are read back as they are.** -/
theorem attributes_toTree : Reading.attributes m.toTree = m := by
  rw [AttributeMap.toTree, Reading.attributes, List.map_map]
  have hentries : m.entries.map (fun entry =>
      (trim entry.1, Reading.attributeValue entry.2.toTree)) = m.entries := by
    refine (List.map_congr_left fun entry hentry => ?_).trans (List.map_id m.entries)
    rw [(hnamed.names entry hentry).isTrimmed.2, (attributeValue_toTree htrimmed hentry).2]
    rfl
  exact congrArg AttributeMap.mk hentries

theorem attributesOf_of_get? {t : Tree} (h : t.get? "attributes" = some m.toTree) :
    Reading.attributesOf t = m := by
  rw [Reading.attributesOf, Tree.field_of_get? h, attributes_toTree hnamed htrimmed]

end Attributes

/-! ### Types -/

section DataTypes

variable {t : DataType}

theorem get?_dataType {key : String} (h : key ∈ ["name", "type", "values"]) :
    (Writing.dataType t).get? key = Writing.dataTypeField t key :=
  Writing.get?_record (by decide) h

theorem declaredName_dataType (h : t.WellNamed) : (Writing.dataType t).declaredName = t.name :=
  Tree.textAt_of_get? (get?_dataType (by decide)) h.name.isTrimmed

theorem map_enumerationValue (h : t.Declared) :
    ((Writing.dataType t).itemsAt "values").map Reading.enumerationValue = t.values := by
  have hvalues : (Writing.dataType t).get? "values" = some (.sequence (t.values.map .string)) :=
    get?_dataType (by decide)
  rw [Tree.itemsAt_of_get? hvalues]
  exact map_map_eq_self fun v hv => (h.trimmed v hv).2

theorem isDataType_dataType (hnamed : t.WellNamed) (h : t.Declared) :
    IsDataType (Writing.dataType t) where
  fields := Writing.isRecord_record (by decide)
  name := requires_of_get? (get?_dataType (by decide)) (isIdentifier_string hnamed.name)
  type := by
    refine requires_of_get? (get?_dataType (by decide)) ?_
    rw [h.kind]
    exact isOneOf_string ⟨by decide, by decide⟩ (by decide)
  values := requires_of_get? (get?_dataType (by decide))
    (isNonemptySequenceOf_map h.values fun v hv => .inl (isText_string (h.trimmed v hv)))
  distinct := by
    rw [map_enumerationValue h]
    exact hnamed.values

/-- **A declared type is read back.** -/
theorem reading_dataType (hnamed : t.WellNamed) (h : t.Declared) :
    Reading.dataType (Writing.dataType t) = t := by
  rw [Reading.dataType, declaredName_dataType hnamed, map_enumerationValue h, ← h.kind,
    ← h.internal]

end DataTypes

/-! ### Properties -/

section Properties

variable {types : List String} {q : Property}

theorem get?_property {key : String} (h : key ∈ ["name", "type", "mandatory", "default", "secret",
    "pattern", "minimum", "maximum", "attributes"]) :
    (Writing.property types q).get? key = Writing.propertyField types q key :=
  Writing.get?_record (by decide) h

theorem declaredName_property (h : q.WellNamed) :
    (Writing.property types q).declaredName = q.name :=
  Tree.textAt_of_get? (get?_property (by decide)) h.name.isTrimmed

theorem minimum_property : (Writing.property types q).numberAt? "minimum" = q.minimum :=
  Tree.numberAt?_of_get? (get?_property (by decide))

theorem maximum_property : (Writing.property types q).numberAt? "maximum" = q.maximum :=
  Tree.numberAt?_of_get? (get?_property (by decide))

/-- Different names, which positions can be read off. -/
structure AreNames (types : List String) : Prop where
  names : ∀ name ∈ types, IsName name
  distinct : types.Nodup

variable (htypes : AreNames types) (hnamed : q.WellNamed) (h : q.Regular)
  (hrange : q.dataType < types.length)

include htypes hnamed h hrange

theorem isProperty_property : IsProperty types (Writing.property types q) where
  fields := Writing.isRecord_record (by decide)
  name := requires_of_get? (get?_property (by decide)) (isIdentifier_string hnamed.name)
  type := requires_of_get? (get?_property (by decide))
    (isOneOf_string (htypes.names _ (getD_mem hrange)).isTrimmed (getD_mem hrange))
  mandatory := allows_of_get? (get?_property (by decide)) ⟨_, rfl⟩
  defaultValue := allows_of_get?_map (get?_property (by decide)) fun v _ => by
    cases v with
    | boolean b => exact .inl ⟨b, rfl⟩
    | number n => exact .inr (.inl ⟨n, rfl⟩)
    | string s => exact .inr (.inr ⟨s, rfl⟩)
  secret := allows_of_get? (get?_property (by decide)) ⟨_, rfl⟩
  pattern := allows_of_get?_map (get?_property (by decide)) fun s hs =>
    isText_string (h.pattern s hs)
  minimum := allows_of_get?_map (get?_property (by decide)) fun n _ => ⟨n, rfl⟩
  maximum := allows_of_get?_map (get?_property (by decide)) fun n _ => ⟨n, rfl⟩
  range := by
    intro low high hlow hhigh
    rw [minimum_property] at hlow
    rw [maximum_property] at hhigh
    exact h.range low high hlow hhigh
  attributes := allows_of_get? (get?_property (by decide))
    (isAttributes_toTree hnamed.attributes h.attributes)

/-- **A property is read back**, given whether it is the last one. -/
theorem reading_property : Reading.property types q.isLast (Writing.property types q) = q := by
  have htype : (Writing.property types q).textAt "type" = types.getD q.dataType "" :=
    Tree.textAt_of_get? (get?_property (by decide)) (htypes.names _ (getD_mem hrange)).isTrimmed
  have hmandatory : (Writing.property types q).booleanAt? "mandatory" = some q.mandatory :=
    Tree.booleanAt?_of_get? (get?_property (by decide))
  have hdefault : (Writing.property types q).scalarAt? "default" = q.defaultValue :=
    Tree.scalarAt?_of_get? (get?_property (by decide))
  have hsecret : (Writing.property types q).booleanAt? "secret" = some q.secret :=
    Tree.booleanAt?_of_get? (get?_property (by decide))
  have hpattern : ((Writing.property types q).get? "pattern").map Tree.trimmed = q.pattern := by
    have hget : (Writing.property types q).get? "pattern" = q.pattern.map .string :=
      get?_property (by decide)
    rw [hget, Option.map_map]
    cases hs : q.pattern with
    | none => rfl
    | some s => exact congrArg some (h.pattern s hs).2
  have hattributes : Reading.attributesOf (Writing.property types q) = q.attributes :=
    attributesOf_of_get? hnamed.attributes h.attributes (get?_property (by decide))
  rw [Reading.property, declaredName_property hnamed, htype, idxOf_getD htypes.distinct hrange,
    hmandatory, hdefault, hsecret, hpattern, minimum_property, maximum_property, hattributes,
    Option.getD_some, Option.getD_some]

end Properties

/-! ### Links -/

section Links

variable {objects : List String} {l : Link}

theorem get?_link {key : String} (h : key ∈ ["name", "target", "mandatory"]) :
    (Writing.link objects l).get? key = Writing.linkField objects l key :=
  Writing.get?_record (by decide) h

theorem declaredName_link (h : IsName l.name) : (Writing.link objects l).declaredName = l.name :=
  Tree.textAt_of_get? (get?_link (by decide)) h.isTrimmed

variable (hobjects : AreNames objects) (hname : IsName l.name) (hrange : l.target < objects.length)

include hobjects hname hrange

theorem isLink_link : IsLink objects (Writing.link objects l) where
  fields := Writing.isRecord_record (by decide)
  name := requires_of_get? (get?_link (by decide)) (isIdentifier_string hname)
  target := requires_of_get? (get?_link (by decide))
    (isOneOf_string (hobjects.names _ (getD_mem hrange)).isTrimmed (getD_mem hrange))
  mandatory := allows_of_get? (get?_link (by decide)) ⟨_, rfl⟩

/-- **A link is read back**, given its source. -/
theorem reading_link : Reading.link objects l.source (Writing.link objects l) = l := by
  have htarget : (Writing.link objects l).textAt "target" = objects.getD l.target "" :=
    Tree.textAt_of_get? (get?_link (by decide)) (hobjects.names _ (getD_mem hrange)).isTrimmed
  have hmandatory : (Writing.link objects l).booleanAt? "mandatory" = some l.mandatory :=
    Tree.booleanAt?_of_get? (get?_link (by decide))
  rw [Reading.link, declaredName_link hname, htarget, idxOf_getD hobjects.distinct hrange,
    hmandatory, Option.getD_some]

end Links

/-! ### Files -/

theorem get?_file {f : OutputFile} {key : String} (h : key ∈ ["scope", "input", "output"]) :
    (Writing.file f).get? key = Writing.fileField f key :=
  Writing.get?_record (by decide) h

theorem isFile_file {f : OutputFile} (h : IsTrimmed f.input ∧ IsTrimmed f.output) :
    IsFile (Writing.file f) where
  fields := Writing.isRecord_record (by decide)
  scope := by
    refine requires_of_get? (get?_file (by decide)) ?_
    cases f.scope <;> exact isOneOf_string ⟨by decide, by decide⟩ (by decide)
  input := requires_of_get? (get?_file (by decide)) (isText_string h.1)
  output := requires_of_get? (get?_file (by decide)) (isText_string h.2)

/-- **A file declaration is read back.** -/
theorem reading_file {f : OutputFile} (h : IsTrimmed f.input ∧ IsTrimmed f.output) :
    Reading.file (Writing.file f) = f := by
  have hinput : (Writing.file f).textAt "input" = f.input :=
    Tree.textAt_of_get? (get?_file (by decide)) h.1
  have houtput : (Writing.file f).textAt "output" = f.output :=
    Tree.textAt_of_get? (get?_file (by decide)) h.2
  have hscope : Reading.fileScope (Writing.file f) = f.scope := by
    have htext : (Writing.file f).textAt "scope" = f.scope.text := by
      refine Tree.textAt_of_get? (get?_file (by decide)) ?_
      cases f.scope <;> exact ⟨by decide, by decide⟩
    rw [Reading.fileScope, htext]
    cases f.scope <;> rfl
  rw [Reading.file, hscope, hinput, houtput]

end Load

end Blueprint
