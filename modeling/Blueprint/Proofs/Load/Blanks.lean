import Blueprint.Proofs.Project.WellFormed

/-!
# Blanks around texts

A text of a definition may have blanks around it, and they make no difference: every reader takes
them away before it looks at the text, and what an error quotes is what was left. So a definition
loads as the same definition without those blanks does, to the same project or to the same error
(`Blueprint.Load.load_stripped`). The one exception is the value under `default`, which is kept
as it stands.

The catch is that links and indexes are not read where they are found. An outline carries their
trees to the later passes, so a pass over the stripped definition does not give the same outline
but a stripped one.

| reading of a stripped tree | gives |
|---|---|
| a value, a fragment, a list of fragments | what the tree itself gives |
| an object, without its links and indexes | its outline, stripped |
| the first pass | the outline, stripped |
| the later passes over a stripped outline | what the outline itself gives |
-/

namespace Blueprint

/-! ### Stripping -/

namespace Tree

mutual

/-- **A tree without the blanks around its texts**, but for what is stored under `default`. Keys
stay as they are. -/
def stripped : Tree → Tree
  | .null => .null
  | .boolean b => .boolean b
  | .number n => .number n
  | .string s => .string (trim s)
  | .sequence ts => .sequence (strippedItems ts)
  | .mapping entries => .mapping (strippedEntries entries)

/-- The items of a sequence, stripped. -/
def strippedItems : List Tree → List Tree
  | [] => []
  | t :: ts => t.stripped :: strippedItems ts

/-- The entries of a mapping, stripped. -/
def strippedEntries : List (String × Tree) → List (String × Tree)
  | [] => []
  | (key, value) :: entries =>
    (key, if key = "default" then value else value.stripped) :: strippedEntries entries

end

/-- What becomes of a value under a key. -/
def strippedAt (key : String) (value : Tree) : Tree :=
  if key = "default" then value else value.stripped

theorem strippedItems_eq_map (ts : List Tree) : strippedItems ts = ts.map stripped := by
  induction ts with
  | nil => rfl
  | cons t ts ih => rw [strippedItems, ih, List.map_cons]

theorem strippedEntries_eq_map (entries : Entries) :
    strippedEntries entries = entries.map fun entry => (entry.1, strippedAt entry.1 entry.2) := by
  induction entries with
  | nil => rfl
  | cons entry entries ih => rw [strippedEntries, ih, List.map_cons, strippedAt]

@[simp] theorem stripped_sequence (ts : List Tree) :
    (sequence ts).stripped = .sequence (ts.map stripped) := by
  rw [stripped, strippedItems_eq_map]

@[simp] theorem stripped_mapping (entries : Entries) : (mapping entries).stripped =
    .mapping (entries.map fun entry => (entry.1, strippedAt entry.1 entry.2)) := by
  rw [stripped, strippedEntries_eq_map]

end Tree

namespace Load

open Blueprint.Tree

/-! ### Values -/

section Values

variable (raw : Tree) (entity : Label) (field : String)

/-- **A text is trimmed before anything is asked of it.** -/
@[simp] theorem text_stripped : text raw.stripped entity field = text raw entity field := by
  cases raw <;> simp [text, stripped, trim_trim]

@[simp] theorem identifier_stripped :
    identifier raw.stripped entity field = identifier raw entity field := by
  rw [identifier, identifier, text_stripped]

@[simp] theorem boolean_stripped :
    boolean raw.stripped entity field = boolean raw entity field := by
  cases raw <;> simp [boolean, stripped, asBoolean?]

@[simp] theorem number_stripped : number raw.stripped entity field = number raw entity field := by
  cases raw <;> simp [number, stripped, asNumber?]

@[simp] theorem attributeValue_stripped :
    attributeValue raw.stripped entity = attributeValue raw entity := by
  cases raw <;> simp [attributeValue, stripped, trim_trim, Scalar.ofTree?]

@[simp] theorem dataTypeKind_stripped :
    dataTypeKind raw.stripped entity = dataTypeKind raw entity := by
  rw [dataTypeKind, dataTypeKind, text_stripped]

@[simp] theorem fileScope_stripped : fileScope raw.stripped entity = fileScope raw entity := by
  rw [fileScope, fileScope, text_stripped]

@[simp] theorem propertyType_stripped (types : List DataType) :
    propertyType types raw.stripped entity = propertyType types raw entity := by
  rw [propertyType, propertyType, text_stripped]

@[simp] theorem linkTarget_stripped (objects : List String) :
    linkTarget objects raw.stripped entity = linkTarget objects raw entity := by
  rw [linkTarget, linkTarget, text_stripped]

@[simp] theorem keyReference_stripped (scope : KeyScope) (kind : KeyKind) :
    keyReference scope kind raw.stripped entity = keyReference scope kind raw entity := by
  rw [keyReference, keyReference, text_stripped]

/-- The items of a stripped sequence are the items, stripped. -/
theorem items_stripped :
    items raw.stripped entity field = (items raw entity field).map (List.map stripped) := by
  cases raw <;> simp [items, stripped, strippedItems_eq_map, asSequence?, orError, Except.map]

end Values

/-! ### Lists -/

section Lists

variable {α β γ σ : Type}

/-- **A loop over changed items goes on from changed states**, if one step does. -/
theorem foldlM_map_comm {step step' : σ → α → Except LoadError σ} {g : σ → σ} {k : α → α}
    (h : ∀ s x, step' (g s) (k x) = (step s x).map g) (xs : List α) (s : σ) :
    (xs.map k).foldlM step' (g s) = (xs.foldlM step s).map g := by
  induction xs generalizing s with
  | nil => rfl
  | cons x xs ih =>
    rw [List.map_cons, List.foldlM_cons, List.foldlM_cons, h, map_bind_eq, bind_map_eq]
    exact congrArg _ (funext ih)

/-- Items that are read alike when they are stripped. -/
theorem each_stripped {read : Tree → Nat → Except LoadError α}
    (h : ∀ t i, read t.stripped i = read t i) (ts : List Tree) :
    each read (ts.map stripped) = each read ts := by
  rw [each, each, List.zipIdx_map, List.mapM_map]
  exact congrArg (fun f => (ts.zipIdx 1).mapM f) (funext fun x => h x.1 x.2)

/-- Items that are read alike in the light of those before them. -/
theorem eachAfter_stripped_eq {read : List α → Tree → Nat → Except LoadError α}
    (h : ∀ done t i, read done t.stripped i = read done t i) (ts : List Tree) :
    eachAfter read (ts.map stripped) = eachAfter read ts := by
  rw [eachAfter, eachAfter, List.zipIdx_map, List.foldlM_map]
  refine congrArg (fun f => (ts.zipIdx 1).foldlM f []) (funext₂ fun done x => ?_)
  simp only [Prod.map, id, h]

/-- **Items read in the light of those before them**, where stripping an item changes what is
read of it. -/
theorem eachAfter_stripped {read : List α → Tree → Nat → Except LoadError α} {g : α → α}
    (h : ∀ done t i, read (done.map g) t.stripped i = (read done t i).map g) (ts : List Tree) :
    eachAfter read (ts.map stripped) = (eachAfter read ts).map (List.map g) := by
  rw [eachAfter, eachAfter, List.zipIdx_map]
  refine foldlM_map_comm (g := List.map g) (fun done x => ?_) (ts.zipIdx 1) []
  dsimp only [Prod.map]
  rw [h, map_bind_eq, bind_map_eq]
  refine congrArg _ (funext fun a => congrArg Except.ok ?_)
  rw [List.map_append, List.map_singleton]

end Lists

end Load

/-! ### Forms -/

namespace Form

open Load Blueprint.Tree

variable {F : Form} {g : (s : F.Slot) → F.Value s → F.Value s}

/-- A draft with its values changed. -/
def Draft.map (g : (s : F.Slot) → F.Value s → F.Value s) (d : F.Draft) : F.Draft :=
  fun s => (d s).map (g s)

theorem Draft.map_fill (d : F.Draft) (s : F.Slot) (v : F.Value s) :
    Draft.map g (d.fill s v) = (Draft.map g d).fill s (g s v) := by
  funext t
  by_cases hst : s = t
  · subst hst
    simp [Draft.map, Draft.fill]
  · simp [Draft.map, Draft.fill, hst]

variable (F g) in
/-- **A form that reads stripped values as it reads the values**, up to some change in what it
makes of them. -/
structure Strips : Prop where
  label : ∀ d, F.label (Draft.map g d) = F.label d
  read : ∀ d {key s} raw, F.slot? key = some s →
    F.read (Draft.map g d) key s (strippedAt key raw) = (F.read d key s raw).map (g s)

namespace Strips

/-- One entry. -/
theorem enter (h : F.Strips g) (d : F.Draft) (entry : String × Tree) :
    F.enter (Draft.map g d) (entry.1, strippedAt entry.1 entry.2) =
      (F.enter d entry).map (Draft.map g) := by
  rw [Form.enter, Form.enter]
  cases hs : F.slot? entry.1 with
  | none =>
    dsimp only
    rw [h.label]
    rfl
  | some s =>
    dsimp only
    rw [h.label, h.read d _ hs, Draft.map, Option.isSome_map]
    split
    · rfl
    · cases F.read d entry.1 s entry.2 with
      | error e => rfl
      | ok v => exact congrArg Except.ok (Draft.map_fill d s v).symm

/-- **The draft of a stripped fragment** is the draft of the fragment, changed. -/
theorem draft (h : F.Strips g) (t : Tree) : F.draft t.stripped = (F.draft t).map (Draft.map g) := by
  have hblank : Draft.map g F.blank = F.blank := rfl
  cases t with
  | mapping entries =>
    rw [stripped_mapping, Form.draft, Form.draft, enterAll, enterAll]
    conv_lhs => rw [← hblank]
    exact foldlM_map_comm h.enter entries F.blank
  | _ => rfl

end Strips

/-- **A form that does not see the blanks around texts** makes the same draft of a stripped
fragment. -/
theorem draft_stripped (h : ∀ d {key s} raw, F.slot? key = some s →
    F.read d key s (strippedAt key raw) = F.read d key s raw) (t : Tree) :
    F.draft t.stripped = F.draft t := by
  have hmap : ∀ d : F.Draft, Draft.map (fun _ => id) d = d := fun d => funext fun s => Option.map_id_apply
  have hstrips : F.Strips fun _ => id := by
    refine ⟨fun d => by rw [hmap], fun d key s raw hs => ?_⟩
    rw [hmap, h d raw hs, Except.map_id]
    rfl
  rw [hstrips.draft, funext hmap]
  exact Except.map_id ▸ rfl

/-- A form under a law, where the key of a value is the name of its slot. -/
theorem Law.draft_stripped (L : F.Law) (h : ∀ d s raw,
    F.read d (F.slotName s) s (strippedAt (F.slotName s) raw) = F.read d (F.slotName s) s raw)
    (t : Tree) : F.draft t.stripped = F.draft t := by
  refine Form.draft_stripped (fun d key s raw hs => ?_) t
  obtain rfl := L.slot?_eq_some_iff.mp hs
  exact h d s raw

end Form

namespace Load

open Blueprint.Tree

/-! ### Entities that are read at once -/

section Fragments

variable (t : Tree) (owner : Label) (position : Nat)

/-- An attribute is read alike whatever its key, since its value is trimmed under any. -/
theorem attributeValue_strippedAt (key : String) :
    attributeValue (strippedAt key t) owner = attributeValue t owner := by
  rw [strippedAt]
  split
  · rfl
  · exact attributeValue_stripped t owner

theorem attributeItem_stripped :
    attributeItem owner t.stripped position = attributeItem owner t position := by
  have hdraft := (attributeLaw owner position).draft_stripped fun d s raw => by
    cases s <;> simp [attributeForm, strippedAt]
  rw [attributeItem, attributeItem, hdraft]

@[simp] theorem attributes_stripped : attributes t.stripped owner = attributes t owner := by
  cases t with
  | mapping entries =>
    rw [stripped_mapping, attributes, attributes, List.foldlM_map]
    refine congrArg (fun f => entries.foldlM f AttributeMap.empty) (funext₂ fun m entry => ?_)
    simp only [addAttributeEntry, attributeValue_strippedAt]
  | sequence ts =>
    rw [stripped_sequence, attributes, attributes, List.zipIdx_map, List.foldlM_map]
    refine congrArg (fun f => (ts.zipIdx 1).foldlM f AttributeMap.empty) (funext₂ fun m item => ?_)
    simp only [addAttributeItem, Prod.map, id, attributeItem_stripped]
  | _ => rfl

theorem enumerationValue_stripped (entity : Label) :
    enumerationValue t.stripped entity = enumerationValue t entity := by
  have hdraft := (valueLaw entity).draft_stripped fun d s raw => by
    simp [valueForm, strippedAt]
  cases t with
  | mapping entries =>
    have hentries := hdraft (.mapping entries)
    rw [stripped_mapping] at hentries ⊢
    exact congrArg (· >>= fun d => required (d ()) entity "value") hentries
  | sequence ts => rw [stripped_sequence]; rfl
  | string s => exact text_stripped (.string s) entity "value"
  | _ => rfl

@[simp] theorem enumerationValues_stripped :
    enumerationValues t.stripped owner = enumerationValues t owner := by
  rw [enumerationValues, enumerationValues, items_stripped, map_bind_eq]
  refine congrArg _ (funext fun ts => eachAfter_stripped_eq (fun done u i => ?_) ts)
  rw [nextValue, nextValue, enumerationValue_stripped]

theorem dataType_stripped (existing : List DataType) :
    dataType existing t.stripped position = dataType existing t position := by
  have hdraft := (dataTypeLaw position).draft_stripped fun d s raw => by
    cases s <;> simp [dataTypeForm, strippedAt]
  rw [dataType, dataType, hdraft]

@[simp] theorem dataTypes_stripped : dataTypes t.stripped owner = dataTypes t owner := by
  rw [dataTypes, dataTypes, items_stripped, map_bind_eq]
  exact congrArg _ (funext (eachAfter_stripped_eq fun done u i => dataType_stripped u i _))

theorem file_stripped : file t.stripped position = file t position := by
  have hdraft := (fileLaw position).draft_stripped fun d s raw => by
    cases s <;> simp [fileForm, strippedAt]
  rw [file, file, hdraft]

@[simp] theorem files_stripped : files t.stripped owner = files t owner := by
  rw [files, files, items_stripped, map_bind_eq]
  exact congrArg _ (funext (each_stripped file_stripped))

/-- **A property**, whose default stands under the one key that keeps its blanks. -/
theorem property_stripped (types : List DataType) :
    property types owner t.stripped position = property types owner t position := by
  have hdraft := (propertyLaw types owner position).draft_stripped fun d s raw => by
    cases s <;> simp [propertyForm, PropertySlot.text, strippedAt]
  rw [property, property, hdraft]

@[simp] theorem properties_stripped (types : List DataType) :
    properties types t.stripped owner = properties types t owner := by
  rw [properties, properties, items_stripped, map_bind_eq]
  simp only [each_stripped fun u i => property_stripped u owner i types]

end Fragments

/-! ### Links and indexes -/

section Deferred

variable (t : Tree) (owner : Label) (position : Nat)

theorem link_stripped (objects : List String) (source : Nat) :
    link objects source owner t.stripped position = link objects source owner t position := by
  have hdraft := (linkLaw objects owner position).draft_stripped fun d s raw => by
    cases s <;> simp [linkForm, strippedAt]
  rw [link, link, hdraft]

theorem indexKey_stripped (scope : KeyScope) :
    indexKey scope owner t.stripped position = indexKey scope owner t position := by
  have hdraft := Form.draft_stripped
      (F := keyForm scope (owner.within .key (.numbered position))) fun d key s raw hs => by
    obtain ⟨kind, hkind, -⟩ := Option.map_eq_some_iff.mp hs
    obtain rfl := keyKind?_eq_some_iff.mp hkind
    cases kind <;> simp [keyForm, KeyKind.text, strippedAt]
  rw [indexKey, indexKey, hdraft]

@[simp] theorem indexKeys_stripped (scope : KeyScope) :
    indexKeys scope t.stripped owner = indexKeys scope t owner := by
  rw [indexKeys, indexKeys, items_stripped, map_bind_eq]
  simp only [each_stripped fun u i => indexKey_stripped u owner i scope]

theorem index_stripped (scope : KeyScope) :
    index scope owner t.stripped position = index scope owner t position := by
  have hdraft := (indexLaw scope owner position).draft_stripped fun d s raw => by
    cases s <;> simp [indexForm, strippedAt]
  rw [index, index, hdraft]

end Deferred

end Load

/-! ### Outlines -/

/-- The outline of an object, with the trees of its links and indexes stripped. -/
def ObjectOutline.stripped (o : ObjectOutline) : ObjectOutline :=
  { o with links := o.links.map Tree.stripped, indexes := o.indexes.map Tree.stripped }

/-- **An outline with the trees that have not been read stripped.** -/
def Outline.stripped (o : Outline) : Outline :=
  { o with objects := o.objects.map ObjectOutline.stripped }

namespace Load

open Blueprint.Tree

/-- What stripping an object changes in the values of its slots. -/
def ObjectSlot.stripped : (s : ObjectSlot) → s.Value → s.Value
  | .name => id
  | .properties => id
  | .attributes => id
  | .links => Tree.stripped
  | .indexes => Tree.stripped

theorem strips_objectForm (types : List DataType) (position : Nat) :
    (objectForm types position).Strips ObjectSlot.stripped := by
  have hname : ∀ d : (objectForm types position).Draft,
      Form.Draft.map ObjectSlot.stripped d .name = d .name := fun d => Option.map_id_apply
  refine ⟨fun d => congrArg (objectLabel position) (hname d), fun d key s raw hs => ?_⟩
  obtain rfl := (objectLaw types position).slot?_eq_some_iff.mp hs
  -- The name is all that a reader sees of the draft.
  have hname := hname d
  generalize Form.Draft.map ObjectSlot.stripped d = d' at hname ⊢
  cases s with
  | links => rfl
  | indexes => rfl
  | _ => simp [objectForm, ObjectSlot.text, ObjectSlot.stripped, strippedAt, hname, Except.map_id]

theorem objectOutline_stripped (types : List DataType) (t : Tree) (position : Nat) :
    objectOutline types t.stripped position =
      (objectOutline types t position).map ObjectOutline.stripped := by
  have hform := strips_objectForm types position
  rw [objectOutline, objectOutline, hform.draft, map_bind_eq, bind_map_eq]
  refine congrArg _ (funext fun d => ?_)
  have hname : Form.Draft.map ObjectSlot.stripped d .name = d .name := Option.map_id_apply
  have hproperties : Form.Draft.map ObjectSlot.stripped d .properties = d .properties :=
    Option.map_id_apply
  have hattributes : Form.Draft.map ObjectSlot.stripped d .attributes = d .attributes :=
    Option.map_id_apply
  rw [hform.label, hname, hproperties, hattributes]
  simp only [bind_map_eq]
  rfl

theorem nextObject_stripped (types : List DataType) (project : Label) (done : List ObjectOutline)
    (t : Tree) (position : Nat) :
    nextObject types project (done.map ObjectOutline.stripped) t.stripped position =
      (nextObject types project done t position).map ObjectOutline.stripped := by
  rw [nextObject, nextObject, objectOutline_stripped, map_bind_eq, bind_map_eq]
  refine congrArg _ (funext fun o => ?_)
  have htaken : ((done.map ObjectOutline.stripped).any fun x => x.name == o.stripped.name) =
      done.any fun x => x.name == o.name := List.any_map
  rw [htaken]
  split
  · rfl
  · rfl

/-- **The outlines of stripped objects** are the outlines of the objects, stripped. -/
theorem objectOutlines_stripped (types : List DataType) (t : Tree) (project : Label) :
    objectOutlines types t.stripped project =
      (objectOutlines types t project).map (List.map ObjectOutline.stripped) := by
  rw [objectOutlines, objectOutlines, items_stripped, map_bind_eq, bind_map_eq]
  exact congrArg _ (funext (eachAfter_stripped (nextObject_stripped types project)))

/-- What stripping a definition changes in the values of its slots. -/
def ProjectSlot.stripped : (s : ProjectSlot) → s.Value → s.Value
  | .name => id
  | .dataTypes => id
  | .attributes => id
  | .objects => List.map ObjectOutline.stripped
  | .files => id

theorem strips_projectForm : projectForm.Strips ProjectSlot.stripped := by
  have hname : ∀ d : projectForm.Draft, Form.Draft.map ProjectSlot.stripped d .name = d .name :=
    fun d => Option.map_id_apply
  have htypes : ∀ d : projectForm.Draft,
      Form.Draft.map ProjectSlot.stripped d .dataTypes = d .dataTypes := fun d => Option.map_id_apply
  refine ⟨fun d => congrArg projectLabel (hname d), fun d key s raw hs => ?_⟩
  obtain rfl := projectLaw.slot?_eq_some_iff.mp hs
  -- The name and the types are all that a reader sees of the draft.
  have hname := hname d
  have htypes := htypes d
  generalize Form.Draft.map ProjectSlot.stripped d = d' at hname htypes ⊢
  cases s with
  | objects =>
    simp [projectForm, ProjectSlot.text, ProjectSlot.stripped, strippedAt, hname, htypes,
      objectOutlines_stripped]
  | _ => simp [projectForm, ProjectSlot.text, ProjectSlot.stripped, strippedAt, hname, Except.map_id]

theorem atLeastOne_map {α β : Type} (f : α → β) (x : Option (List α)) (lack : Incompleteness) :
    atLeastOne (x.map (List.map f)) lack = (atLeastOne x lack).map (List.map f) := by
  cases x with
  | none => rfl
  | some xs => cases xs <;> rfl

/-- **The first pass over a stripped definition** gives the outline of the definition, stripped,
or the same error. -/
theorem outline_stripped (d : Tree) : outline d.stripped = (outline d).map Outline.stripped := by
  rw [outline, outline, strips_projectForm.draft, map_bind_eq, bind_map_eq]
  refine congrArg _ (funext fun draft => ?_)
  have hname : Form.Draft.map ProjectSlot.stripped draft .name = draft .name :=
    Option.map_id_apply
  have htypes : Form.Draft.map ProjectSlot.stripped draft .dataTypes = draft .dataTypes :=
    Option.map_id_apply
  have hattributes : Form.Draft.map ProjectSlot.stripped draft .attributes = draft .attributes :=
    Option.map_id_apply
  have hfiles : Form.Draft.map ProjectSlot.stripped draft .files = draft .files :=
    Option.map_id_apply
  have hobjects : ∀ lack, atLeastOne (Form.Draft.map ProjectSlot.stripped draft .objects) lack =
      (atLeastOne (draft .objects) lack).map (List.map ObjectOutline.stripped) :=
    atLeastOne_map _ _
  rw [strips_projectForm.label, hname, htypes, hattributes, hfiles]
  simp only [hobjects, map_bind_eq, bind_map_eq]
  rfl

/-! ### The later passes -/

/-- A list of fragments that was carried along stripped, read at last. -/
theorem objectLinks_stripped (objects : List String) (source : Nat) (o : ObjectOutline) :
    objectLinks objects source o.stripped = objectLinks objects source o := by
  rw [objectLinks, objectLinks, ObjectOutline.stripped]
  cases o.links with
  | none => rfl
  | some raw =>
    dsimp only [Option.map_some]
    rw [items_stripped, map_bind_eq]
    refine congrArg _ (funext (eachAfter_stripped_eq fun done t i => ?_))
    rw [nextLink, nextLink, link_stripped]

theorem objectIndexes_stripped (options : LoadOptions) (o : ObjectOutline) (links : List Link)
    (position : Nat) :
    objectIndexes options o.stripped links position = objectIndexes options o links position := by
  rw [objectIndexes, objectIndexes, ObjectOutline.stripped]
  cases o.indexes with
  | none => rfl
  | some raw =>
    dsimp only [Option.map_some]
    rw [items_stripped, map_bind_eq]
    refine congrArg _ (funext (eachAfter_stripped_eq fun done t i => ?_))
    rw [nextIndex, nextIndex, index_stripped]

/-- **The second pass** over a stripped outline. -/
theorem links_stripped (o : Outline) : links o.stripped = links o := by
  have hnames : o.stripped.objects.map (·.name) = o.objects.map (·.name) := by
    rw [Outline.stripped, List.map_map]
    rfl
  rw [links, links, hnames, Outline.stripped, List.zipIdx_map, List.mapM_map]
  refine congrArg (fun f => o.objects.zipIdx.mapM f) (funext fun x => ?_)
  exact objectLinks_stripped _ x.2 x.1

/-- **The third pass** over a stripped outline. -/
theorem indexes_stripped (options : LoadOptions) (o : Outline) (rows : List (List Link)) :
    indexes options o.stripped rows = indexes options o rows := by
  rw [indexes, indexes, Outline.stripped, List.zip_map_left, List.zipIdx_map, List.mapM_map]
  refine congrArg (fun f => (o.objects.zip rows).zipIdx.mapM f) (funext fun x => ?_)
  exact objectIndexes_stripped options x.1.1 x.1.2 x.2

/-- Nothing in a project comes of the trees in its outline. -/
theorem assemble_stripped (o : Outline) (rows : List (List Link)) (found : List (List Index)) :
    assemble o.stripped rows found = assemble o rows found := by
  have hobjects : o.stripped.objects.map unlinked = o.objects.map unlinked := by
    rw [Outline.stripped, List.map_map]
    rfl
  rw [assemble, assemble, hobjects]
  rfl

/-- **Blanks around texts do not matter.** A definition and the definition without the blanks
around its texts, those under `default` apart, load to the same project, or fail with the same
error. -/
theorem load_stripped (options : LoadOptions) (d : Tree) :
    load options d.stripped = load options d := by
  rw [load, load, outline_stripped, map_bind_eq]
  simp only [links_stripped, indexes_stripped, assemble_stripped]

end Load

end Blueprint
