import Blueprint.Proofs.Load.DataTypes
import Blueprint.Proofs.Load.Properties

/-!
# The first pass, as the grammar has it

Everything of a definition but its links and indexes is read in one pass over the file.
`Blueprint.Load.outline_yields` says which definitions pass it, `Blueprint.Load.IsOutlined`,
and what is known of them afterwards, `Blueprint.Load.outlineOf`.

This is the one place where the order of fields is felt. A property is read against the
types known when its turn comes, which are the built-in ones and those of a `datatypes`
that stands before `objects`.
-/

namespace Blueprint

namespace Load

open Grammar

/-! ### Files -/

theorem ofText?_eq_some_iff {s : String} {scope : FileScope} :
    FileScope.ofText? s = some scope ↔
      s ∈ ["project", "object"] ∧ (if s = "object" then .object else .project) = scope := by
  unfold FileScope.ofText?
  split
  · exact ⟨by rintro ⟨⟩; exact ⟨by decide, rfl⟩, fun h => congrArg some h.2⟩
  · exact ⟨by rintro ⟨⟩; exact ⟨by decide, rfl⟩, fun h => congrArg some h.2⟩
  · next hproject hobject =>
    refine iff_of_false (fun h => nomatch h) ?_
    rintro ⟨h, -⟩
    rw [List.mem_cons, List.mem_singleton] at h
    exact h.elim hproject hobject

/-- How often a file is generated. -/
def scopeOf (t : Tree) : FileScope := if t.trimmed = "object" then .object else .project

theorem fileScope_yields (t : Tree) (entity : Label) :
    Yields (fileScope t entity) (IsOneOf ["project", "object"] t) (scopeOf t) :=
  text_bind_yields t entity "scope" (orError_yields fun _ => ofText?_eq_some_iff)

theorem FileSlot.mem_all (s : FileSlot) : s ∈ [FileSlot.scope, .input, .output] := by
  cases s <;> decide

/-- What the slots of a file declaration take. -/
def FileSlot.Accepts : FileSlot → Tree → Prop
  | .scope => IsOneOf ["project", "object"]
  | .input => IsText
  | .output => IsText

/-- What the slots of a file declaration make of it. -/
def FileSlot.read : (s : FileSlot) → Tree → s.Value
  | .scope => scopeOf
  | .input => Tree.trimmed
  | .output => Tree.trimmed

/-- The law of a file declaration. -/
def fileLaw (position : Nat) : (fileForm position).Law where
  slots := [.scope, .input, .output]
  accepts _ := FileSlot.Accepts
  value _ := FileSlot.read
  slot?_eq_some_iff := by
    intro k s
    constructor
    · intro h
      simp only [fileForm] at h
      split at h <;> cases h <;> rfl
    · rintro rfl
      cases s <;> rfl
  mem_slots := FileSlot.mem_all
  read_yields before s raw := by
    cases s with
    | scope => exact fileScope_yields _ _
    | input => exact text_yields _ _ _
    | output => exact text_yields _ _ _

/-- **A file declaration.** -/
theorem file_yields (t : Tree) (position : Nat) :
    Yields (file t position) (IsFile t) (Reading.file t) := by
  let law := fileLaw position
  refine ((law.draft_yields t).bind fun _ =>
    (field_yields "scope" scopeOf).bind fun _ =>
    (field_yields "input" Tree.trimmed).bind fun _ =>
    (field_yields "output" Tree.trimmed).bind fun _ =>
    Yields.pure (Reading.file t)).congr ?_ fun _ => rfl
  constructor
  · rintro ⟨⟨hfields, hslots⟩, hscope, hinput, houtput, -⟩
    exact ⟨hfields, requires_iff.mpr ⟨hscope, hslots .scope⟩,
      requires_iff.mpr ⟨hinput, hslots .input⟩, requires_iff.mpr ⟨houtput, hslots .output⟩⟩
  · rintro ⟨hfields, hscope, hinput, houtput⟩
    obtain ⟨hscope, hscopes⟩ := requires_iff.mp hscope
    obtain ⟨hinput, hinputs⟩ := requires_iff.mp hinput
    obtain ⟨houtput, houtputs⟩ := requires_iff.mp houtput
    exact ⟨⟨hfields, fun s => by cases s <;> assumption⟩, hscope, hinput, houtput, trivial⟩

/-- The file declarations of a project. -/
theorem files_yields (t : Tree) (project : Label) :
    Yields (files t project) (IsSequenceOf IsFile t) (t.items.map Reading.file) := by
  have hall := (each_yields_map file_yields t.items).congr (iff_of_eq (and_true _).symm)
    fun _ => rfl
  exact (sequence_yields t project "files" hall).congr (iff_of_eq (and_true _)) fun _ => rfl

/-! ### Objects -/

theorem ObjectSlot.mem_all (s : ObjectSlot) :
    s ∈ [ObjectSlot.name, .properties, .attributes, .links, .indexes] := by
  cases s <;> decide

/-- What the slots of an object take; links and indexes are left for later. -/
def ObjectSlot.Accepts (types : List String) : ObjectSlot → Tree → Prop
  | .name => IsIdentifier
  | .properties => IsSequenceOf (IsProperty types)
  | .attributes => IsAttributes
  | .links => fun _ => True
  | .indexes => fun _ => True

/-- The properties of a list of fragments, the last one marked. -/
def propertiesOf (types : List String) (t : Tree) : List Property :=
  Reading.marked (fun _ => Reading.property types) t.items

/-- What the slots of an object make of it. -/
def ObjectSlot.read (types : List String) : (s : ObjectSlot) → Tree → s.Value
  | .name => Tree.trimmed
  | .properties => propertiesOf types
  | .attributes => Reading.attributes
  | .links => id
  | .indexes => id

/-- The law of an object without its links and indexes. -/
def objectLaw (types : List DataType) (position : Nat) : (objectForm types position).Law where
  slots := [.name, .properties, .attributes, .links, .indexes]
  accepts _ := ObjectSlot.Accepts (types.map (·.name))
  value _ := ObjectSlot.read (types.map (·.name))
  slot?_eq_some_iff := by
    intro k s
    constructor
    · intro h
      simp only [objectForm, ObjectSlot.ofText?] at h
      split at h <;> cases h <;> rfl
    · rintro rfl
      cases s <;> rfl
  mem_slots := ObjectSlot.mem_all
  read_yields before s raw := by
    cases s with
    | name => exact identifier_yields _ _ _
    | properties => exact properties_yields _ _ _
    | attributes => exact attributes_yields _ _
    | links => exact Yields.ok _
    | indexes => exact Yields.ok _

/-- **What the first pass knows of an object.** -/
def objectOutlineOf (types : List String) (t : Tree) : ObjectOutline where
  name := t.declaredName
  properties := Reading.properties types t
  attributes := Reading.attributesOf t
  links := t.get? "links"
  indexes := t.get? "indexes"

theorem marked_eq_nil_iff {α : Type} {read : Nat → Bool → Tree → α} {ts : List Tree} :
    Reading.marked read ts = [] ↔ ts = [] := by
  rw [Reading.marked, List.map_eq_nil_iff, List.zipIdx_eq_nil_iff]

theorem objectOutline_yields (types : List DataType) (t : Tree) (position : Nat) :
    Yields (objectOutline types t position) (IsOutline (types.map (·.name)) t)
      (objectOutlineOf (types.map (·.name)) t) := by
  let law := objectLaw types position
  have hlist : Requires t "properties" (IsNonemptySequenceOf (IsProperty (types.map (·.name)))) ↔
      _ := requires_list_iff (f := propertiesOf (types.map (·.name))) fun _ => marked_eq_nil_iff
  refine ((law.draft_yields t).bind fun _ =>
    (field_yields "name" Tree.trimmed).bind fun _ =>
    (list_field_yields "properties" (propertiesOf (types.map (·.name)))).bind fun _ =>
    Yields.pure (⟨t.declaredName, Reading.properties (types.map (·.name)) t,
      (law.draftOf t .attributes).getD .empty, law.draftOf t .links,
      law.draftOf t .indexes⟩ : ObjectOutline)).congr ?_ fun _ => ?_
  · constructor
    · rintro ⟨⟨hfields, hslots⟩, hname, hproperties, -⟩
      exact ⟨hfields, requires_iff.mpr ⟨hname, hslots .name⟩,
        hlist.mpr ⟨hproperties, hslots .properties⟩, hslots .attributes⟩
    · rintro ⟨hfields, hname, hproperties, hattributes⟩
      obtain ⟨hname, hidentifier⟩ := requires_iff.mp hname
      obtain ⟨hproperties, hsequence⟩ := hlist.mp hproperties
      refine ⟨⟨hfields, fun s => ?_⟩, hname, hproperties, trivial⟩
      cases s with
      | name => exact hidentifier
      | properties => exact hsequence
      | attributes => exact hattributes
      | links => exact fun _ _ => trivial
      | indexes => exact fun _ _ => trivial
  · have hattributes : (law.draftOf t .attributes).getD .empty = Reading.attributesOf t :=
      getD_map_attributes t
    have hlinks : law.draftOf t .links = t.get? "links" := Option.map_id_apply
    have hindexes : law.draftOf t .indexes = t.get? "indexes" := Option.map_id_apply
    rw [hattributes, hlinks, hindexes]
    rfl

theorem nextObject_yields (types : List DataType) (project : Label) (done : List ObjectOutline)
    (t : Tree) (position : Nat) :
    Yields (nextObject types project done t position)
      (IsOutline (types.map (·.name)) t ∧ t.declaredName ∉ done.map (·.name))
      (objectOutlineOf (types.map (·.name)) t) :=
  unless_yields (objectOutline_yields types t position) any_beq_iff

/-- **The objects of a project**, without their links and indexes: all their names
differ. -/
theorem objectOutlines_yields (types : List DataType) (t : Tree) (project : Label) :
    Yields (objectOutlines types t project)
      (IsSequenceOf (IsOutline (types.map (·.name))) t ∧ (t.items.map Tree.declaredName).Nodup)
      (t.items.map (objectOutlineOf (types.map (·.name)))) := by
  refine (sequence_yields t project "objects"
    (eachAfter_distinct_yields (·.name) (nextObject_yields types project) t.items)).congr ?_
    fun _ => rfl
  rw [List.map_map]
  rfl

/-! ### Projects -/

theorem ProjectSlot.mem_all (s : ProjectSlot) :
    s ∈ [ProjectSlot.name, .dataTypes, .attributes, .objects, .files] := by
  cases s <;> decide

/-- The types known after some entries of a definition: those built in, and those
declared there. -/
def typesOf (t : Tree) : List DataType :=
  builtinDataTypes ++ (t.itemsAt "datatypes").map Reading.dataType

theorem map_name_typesOf (t : Tree) : (typesOf t).map (·.name) = Reading.typeNames t := by
  rw [typesOf, List.map_append, List.map_map]
  rfl

theorem knownTypes_map (t : Tree) :
    knownTypes ((t.get? "datatypes").map fun v => v.items.map Reading.dataType) = typesOf t := by
  rw [knownTypes, typesOf, Tree.itemsAt, Tree.field]
  cases t.get? "datatypes" with
  | none => rfl
  | some v => rfl

/-- What the slots of a definition take, after some entries. -/
def ProjectSlot.Accepts (before : Tree) : ProjectSlot → Tree → Prop
  | .name => IsText
  | .dataTypes => fun t =>
    IsSequenceOf IsDataType t ∧ (Reading.builtinNames ++ t.items.map Tree.declaredName).Nodup
  | .attributes => IsAttributes
  | .objects => fun t =>
    IsSequenceOf (IsOutline (Reading.typeNames before)) t ∧ (t.items.map Tree.declaredName).Nodup
  | .files => IsSequenceOf IsFile

/-- What the slots of a definition make of it, after some entries. -/
def ProjectSlot.read (before : Tree) : (s : ProjectSlot) → Tree → s.Value
  | .name => Tree.trimmed
  | .dataTypes => fun t => t.items.map Reading.dataType
  | .attributes => Reading.attributes
  | .objects => fun t => t.items.map (objectOutlineOf (Reading.typeNames before))
  | .files => fun t => t.items.map Reading.file

/-- **The law of a definition**, the one form whose values depend on what stands before
them: the objects are read against the types declared so far. -/
def projectLaw : projectForm.Law where
  slots := [.name, .dataTypes, .attributes, .objects, .files]
  accepts := ProjectSlot.Accepts
  value := ProjectSlot.read
  slot?_eq_some_iff := by
    intro k s
    constructor
    · intro h
      simp only [projectForm, ProjectSlot.ofText?] at h
      split at h <;> cases h <;> rfl
    · rintro rfl
      cases s <;> rfl
  mem_slots := ProjectSlot.mem_all
  read_yields before s raw := by
    cases s with
    | name => exact text_yields _ _ _
    | dataTypes => exact dataTypes_yields _ _
    | attributes => exact attributes_yields _ _
    | objects =>
      -- What has been read of the entries before this one decides which types are known.
      have h := objectOutlines_yields (typesOf before) raw
        (projectForm.label (Form.lookedUp ProjectSlot.read before))
      rw [map_name_typesOf] at h
      rw [← knownTypes_map] at h
      exact h
    | files => exact files_yields _ _

/-- **A definition that passes the first reading**: what `Grammar.IsDefinition` asks, but
nothing of the links and indexes of its objects. -/
structure IsOutlined (d : Tree) : Prop where
  fields : IsRecord ["name", "datatypes", "attributes", "objects", "files"] d
  name : Requires d "name" IsText
  dataTypes : Allows d "datatypes" (IsSequenceOf IsDataType)
  typeNames : (Reading.typeNames d).Nodup
  attributes : Allows d "attributes" IsAttributes
  objects : Requires d "objects" (IsNonemptySequenceOf (IsOutline (visibleTypes d)))
  objectNames : (d.namesAt "objects").Nodup
  files : Requires d "files" (IsNonemptySequenceOf IsFile)

/-- **What is known of a definition after the first reading.** -/
def outlineOf (d : Tree) : Outline where
  name := d.declaredName
  attributes := Reading.attributesOf d
  dataTypes := typesOf d
  objects := (d.itemsAt "objects").map (objectOutlineOf (visibleTypes d))
  files := (d.itemsAt "files").map Reading.file

/-- The objects that the later passes go through, each made of a fragment alone. -/
theorem objects_outlineOf (d : Tree) : (outlineOf d).objects =
    (d.itemsAt "objects").zipIdx.map fun x => objectOutlineOf (visibleTypes d) x.1 :=
  (map_zipIdx _ _ 0).symm

/-- Distinct names of types, seen from the field that declares them. -/
theorem nodup_typeNames_iff {d : Tree} :
    (Reading.typeNames d).Nodup ↔ Allows d "datatypes" fun t =>
      (Reading.builtinNames ++ t.items.map Tree.declaredName).Nodup :=
  (allows_items_iff (Q := fun ts => (Reading.builtinNames ++ ts.map Tree.declaredName).Nodup)
    (by decide)).symm

/-- **The first pass.** -/
theorem outline_yields (d : Tree) : Yields (outline d) (IsOutlined d) (outlineOf d) := by
  let law := projectLaw
  let objects := fun t : Tree => t.items.map (objectOutlineOf (visibleTypes d))
  have hobjectList : Requires d "objects" (IsNonemptySequenceOf (IsOutline (visibleTypes d))) ↔ _ :=
    requires_list_iff (f := objects) fun _ => List.map_eq_nil_iff
  have hobjectSlot : Allows d "objects" (ProjectSlot.Accepts (d.before "objects") .objects) ↔ _ :=
    allows_and_iff.trans (and_congr_right fun _ => allows_distinct_iff)
  have hfileList : Requires d "files" (IsNonemptySequenceOf IsFile) ↔ _ :=
    requires_list_iff fun v => List.map_eq_nil_iff (f := Reading.file) (l := v.items)
  have htypeSlot : Allows d "datatypes" (ProjectSlot.Accepts (d.before "datatypes") .dataTypes) ↔
      _ := allows_and_iff.trans (and_congr_right fun _ => nodup_typeNames_iff.symm)
  refine ((law.draft_yields d).bind fun _ =>
    (field_yields "name" Tree.trimmed).bind fun _ =>
    (list_field_yields "objects" objects).bind fun _ =>
    (list_field_yields "files" fun t => t.items.map Reading.file).bind fun _ =>
    Yields.pure (⟨d.declaredName, (law.draftOf d .attributes).getD .empty,
      knownTypes (law.draftOf d .dataTypes), objects (d.field "objects"),
      (d.itemsAt "files").map Reading.file⟩ : Outline)).congr ?_ fun _ => ?_
  · constructor
    · rintro ⟨⟨hfields, hslots⟩, hname, hobjects, hfiles, -⟩
      -- The slots of types and objects speak of each item and of all names at once.
      obtain ⟨htypes, htypeNames⟩ := htypeSlot.mp (hslots .dataTypes)
      obtain ⟨houtlines, hobjectNames⟩ := hobjectSlot.mp (hslots .objects)
      exact ⟨hfields, requires_iff.mpr ⟨hname, hslots .name⟩, htypes, htypeNames,
        hslots .attributes, hobjectList.mpr ⟨hobjects, houtlines⟩, hobjectNames,
        hfileList.mpr ⟨hfiles, hslots .files⟩⟩
    · rintro ⟨hfields, hname, htypes, htypeNames, hattributes, hobjects, hobjectNames, hfiles⟩
      obtain ⟨hname, htext⟩ := requires_iff.mp hname
      obtain ⟨hobjects, houtlines⟩ := hobjectList.mp hobjects
      obtain ⟨hfiles, hfile⟩ := hfileList.mp hfiles
      refine ⟨⟨hfields, fun s => ?_⟩, hname, hobjects, hfiles, trivial⟩
      cases s with
      | name => exact htext
      | dataTypes => exact htypeSlot.mpr ⟨htypes, htypeNames⟩
      | attributes => exact hattributes
      | objects => exact hobjectSlot.mpr ⟨houtlines, hobjectNames⟩
      | files => exact hfile
  · have hattributes : (law.draftOf d .attributes).getD .empty = Reading.attributesOf d :=
      getD_map_attributes d
    have htypes : knownTypes (law.draftOf d .dataTypes) = typesOf d := knownTypes_map d
    rw [hattributes, htypes]
    rfl

end Load

end Blueprint
