import Blueprint.Proofs.Load.Links

/-!
# The third pass, as the grammar has it

Indexes are read last, when the properties and links of their object are known by name.
`Blueprint.Load.indexes_yields` is the third pass over a definition that has passed the
first two.

A key is read by a form of its own kind. It has one slot and two keys that fill it, and how
the value is read depends on the key, so the law of forms does not apply and the entries of
a key are gone through by hand: there is exactly one.
-/

namespace Blueprint

namespace Load

open Grammar

/-! ### What a key refers to -/

/-- The names that a key of some kind can give. -/
def KeyScope.names (scope : KeyScope) : KeyKind → List String
  | .property => scope.properties
  | .link => scope.links

/-- The property or link at a position. -/
def KeyScope.reference (scope : KeyScope) : KeyKind → Nat → KeyReference
  | .property, i => .property ⟨scope.object, i⟩
  | .link, i => .link ⟨scope.object, i⟩

theorem KeyScope.find?_eq_map (scope : KeyScope) (kind : KeyKind) (name : String) :
    scope.find? kind name =
      ((scope.names kind).findIdx? fun n => n == name).map (scope.reference kind) := by
  cases kind <;> rfl

/-- A reference exists when its name is one of the scope. -/
theorem KeyScope.find?_eq_some_iff {scope : KeyScope} {kind : KeyKind} {name : String}
    {r : KeyReference} :
    scope.find? kind name = some r ↔
      name ∈ scope.names kind ∧ scope.reference kind ((scope.names kind).idxOf name) = r := by
  have hidx : ∀ i, ((scope.names kind).findIdx? fun n => n == name) = some i ↔
      name ∈ scope.names kind ∧ (scope.names kind).idxOf name = i := by
    intro i
    have h : ((scope.names kind).findIdx? fun n => id n == name) = some i ↔
        name ∈ (scope.names kind).map id ∧ ((scope.names kind).map id).idxOf name = i :=
      findIdx?_eq_some_iff_idxOf
    rwa [List.map_id] at h
  rw [scope.find?_eq_map, Option.map_eq_some_iff]
  constructor
  · rintro ⟨i, hi, rfl⟩
    obtain ⟨hmem, rfl⟩ := (hidx i).mp hi
    exact ⟨hmem, rfl⟩
  · rintro ⟨hmem, rfl⟩
    exact ⟨_, (hidx _).mpr ⟨hmem, rfl⟩, rfl⟩

theorem keyReference_yields (scope : KeyScope) (kind : KeyKind) (t : Tree) (entity : Label) :
    Yields (keyReference scope kind t entity) (IsOneOf (scope.names kind) t)
      (scope.reference kind ((scope.names kind).idxOf t.trimmed)) :=
  text_bind_yields t entity kind.text (orError_yields fun _ => KeyScope.find?_eq_some_iff)

/-! ### Keys -/

theorem keyKind?_eq_some_iff {k : String} {kind : KeyKind} :
    keyKind? k = some kind ↔ kind.text = k := by
  constructor
  · intro h
    unfold keyKind? at h
    split at h <;> cases h <;> rfl
  · rintro rfl
    cases kind <;> rfl

section Entries

variable (scope : KeyScope) (entity : Label)

/-- The first entry of a key fills its slot. -/
theorem enter_blank (kind : KeyKind) (raw : Tree) :
    (keyForm scope entity).enter (keyForm scope entity).blank (kind.text, raw) =
      (keyReference scope kind raw entity).map
        fun r => Form.Draft.fill (keyForm scope entity).blank () r := by
  cases kind <;> rfl

theorem enter_blank_of_none {k : String} (h : keyKind? k = none) (d : (keyForm scope entity).Draft)
    (raw : Tree) : ∃ e, (keyForm scope entity).enter d (k, raw) = .error e := by
  have hslot : (keyForm scope entity).slot? k = none := by
    change (keyKind? k).map _ = none
    rw [h, Option.map_none]
  rw [Form.enter, hslot]
  exact ⟨_, rfl⟩

/-- Once the slot is filled no entry is accepted. -/
theorem enter_full {d : (keyForm scope entity).Draft} (hd : ∀ s, (d s).isSome = true)
    (entry : String × Tree) : ∃ e, (keyForm scope entity).enter d entry = .error e := by
  rw [Form.enter]
  cases (keyForm scope entity).slot? entry.1 with
  | none => exact ⟨_, rfl⟩
  | some s =>
    dsimp only
    rw [if_pos (hd s)]
    exact ⟨_, rfl⟩

/-- Two entries or more are refused: the first one fills the only slot. -/
theorem enterAll_cons_cons (x y : String × Tree) (entries : Entries) :
    ∃ e, (keyForm scope entity).enterAll (x :: y :: entries) = .error e := by
  obtain ⟨k, raw⟩ := x
  rw [Form.enterAll, List.foldlM_cons]
  cases hk : keyKind? k with
  | none =>
    obtain ⟨e, he⟩ := enter_blank_of_none scope entity hk (keyForm scope entity).blank raw
    rw [he]
    exact ⟨e, rfl⟩
  | some kind =>
    obtain rfl := keyKind?_eq_some_iff.mp hk
    rw [enter_blank]
    cases keyReference scope kind raw entity with
    | error e => exact ⟨e, rfl⟩
    | ok r =>
      obtain ⟨e, he⟩ := enter_full scope entity
        (d := Form.Draft.fill (keyForm scope entity).blank () r) (fun _ => rfl) y
      refine ⟨e, ?_⟩
      change (y :: entries).foldlM (keyForm scope entity).enter
        (Form.Draft.fill (keyForm scope entity).blank () r) = .error e
      rw [List.foldlM_cons, he]
      rfl

end Entries

/-- A key of one entry is read as its reference is. -/
theorem indexKey_singleton (scope : KeyScope) (index : Label) (kind : KeyKind) (raw : Tree)
    (position : Nat) :
    indexKey scope index (.mapping [(kind.text, raw)]) position =
      keyReference scope kind raw (index.within .key (.numbered position)) >>= fun r =>
        .ok ⟨position, r, false⟩ := by
  rw [indexKey, Form.draft, Form.enterAll, List.foldlM_cons, enter_blank]
  cases keyReference scope kind raw (index.within .key (.numbered position)) with
  | error e => rfl
  | ok r => rfl

/-- The one entry of a key. -/
theorem isIndexKey_singleton_iff {properties links : List String} {k : String} {raw : Tree} :
    IsIndexKey properties links (.mapping [(k, raw)]) ↔
      k = "property" ∧ IsOneOf properties raw ∨ k = "link" ∧ IsOneOf links raw := by
  constructor
  · rintro ⟨_, _, ⟨⟩, h⟩
    exact h
  · exact fun h => ⟨k, raw, rfl, h⟩

/-- **An index key**, which gives the name of a property or that of a link. -/
theorem indexKey_yields (scope : KeyScope) (index : Label) (t : Tree) (position : Nat) :
    Yields (indexKey scope index t position) (IsIndexKey scope.properties scope.links t)
      (Reading.indexKey scope.object scope.properties scope.links position false t) := by
  let entity := index.within .key (.numbered position)
  cases t with
  | mapping entries =>
    -- No entry, one entry, or too many.
    rcases entries with _ | ⟨⟨k, raw⟩, _ | ⟨entry, entries⟩⟩
    · refine Yields.error _ ?_
      rintro ⟨_, _, ⟨⟩, _⟩
    · cases hk : keyKind? k with
      | none =>
        obtain ⟨e, he⟩ := enter_blank_of_none scope entity hk (keyForm scope entity).blank raw
        rw [indexKey, Form.draft, Form.enterAll, List.foldlM_cons, he]
        refine Yields.error e fun h => ?_
        rcases isIndexKey_singleton_iff.mp h with ⟨rfl, _⟩ | ⟨rfl, _⟩ <;> cases hk
      | some kind =>
        obtain rfl := keyKind?_eq_some_iff.mp hk
        rw [indexKey_singleton]
        let finish := fun r => (⟨position, r, false⟩ : IndexKey)
        refine ((keyReference_yields scope kind raw entity).bind
          (f := fun r => .ok (finish r)) fun _ => Yields.ok _).congr ?_ ?_
        · rw [and_true, isIndexKey_singleton_iff]
          cases kind with
          | property => simp [KeyKind.text, KeyScope.names]
          | link => simp [KeyKind.text, KeyScope.names]
        · intro _
          cases kind <;> rfl
    · obtain ⟨e, he⟩ := enterAll_cons_cons scope entity (k, raw) entry entries
      rw [indexKey, Form.draft, he]
      refine Yields.error e ?_
      rintro ⟨_, _, ⟨⟩, _⟩
  | _ =>
    refine Yields.error _ ?_
    rintro ⟨_, _, ⟨⟩, _⟩

/-- The keys of an index, the last one marked. -/
theorem indexKeys_yields (scope : KeyScope) (t : Tree) (index : Label) :
    Yields (indexKeys scope t index) (IsSequenceOf (IsIndexKey scope.properties scope.links) t)
      (Reading.marked (Reading.indexKey scope.object scope.properties scope.links) t.items) :=
  sequence_marked_yields t index "keys" (fun _ _ => rfl) (indexKey_yields scope index)

/-! ### Indexes -/

theorem IndexSlot.mem_all (s : IndexSlot) : s ∈ [IndexSlot.name, .unique, .keys] := by
  cases s <;> decide

/-- What the slots of an index take. -/
def IndexSlot.Accepts (scope : KeyScope) : IndexSlot → Tree → Prop
  | .name => IsIdentifier
  | .unique => IsBoolean
  | .keys => IsSequenceOf (IsIndexKey scope.properties scope.links)

/-- What the slots of an index make of it. -/
def IndexSlot.read (scope : KeyScope) : (s : IndexSlot) → Tree → s.Value
  | .name => Tree.trimmed
  | .unique => fun t => t.asBoolean?.getD false
  | .keys => fun t =>
    Reading.marked (Reading.indexKey scope.object scope.properties scope.links) t.items

/-- The law of an index. -/
def indexLaw (scope : KeyScope) (owner : Label) (position : Nat) :
    (indexForm scope owner position).Law where
  slots := [.name, .unique, .keys]
  accepts _ := IndexSlot.Accepts scope
  value _ := IndexSlot.read scope
  slot?_eq_some_iff := by
    intro k s
    constructor
    · intro h
      simp only [indexForm] at h
      split at h <;> cases h <;> rfl
    · rintro rfl
      cases s <;> rfl
  mem_slots := IndexSlot.mem_all
  read_yields before s raw := by
    cases s with
    | name => exact identifier_yields _ _ _
    | unique => exact boolean_yields _ _ _
    | keys => exact indexKeys_yields _ _ _

/-- **An index** over the properties and links of its object. -/
theorem index_yields (scope : KeyScope) (owner : Label) (t : Tree) (position : Nat) :
    Yields (index scope owner t position) (IsIndex scope.properties scope.links t)
      (Reading.index scope.object scope.properties scope.links t) := by
  let law := indexLaw scope owner position
  let keys := fun v : Tree =>
    Reading.marked (Reading.indexKey scope.object scope.properties scope.links) v.items
  have hlist : Requires t "keys"
      (IsNonemptySequenceOf (IsIndexKey scope.properties scope.links)) ↔ _ :=
    requires_list_iff (f := keys) fun _ => marked_eq_nil_iff
  refine ((law.draft_yields t).bind fun _ =>
    (field_yields "name" Tree.trimmed).bind fun _ =>
    (list_field_yields "keys" keys).bind fun _ =>
    Yields.pure (⟨t.declaredName, (law.draftOf t .unique).getD true, keys (t.field "keys"),
      scope.object⟩ : Index)).congr ?_ fun h => ?_
  · constructor
    · rintro ⟨⟨hfields, hslots⟩, hname, hkeys, -⟩
      exact ⟨hfields, requires_iff.mpr ⟨hname, hslots .name⟩, hslots .unique,
        hlist.mpr ⟨hkeys, hslots .keys⟩⟩
    · rintro ⟨hfields, hname, hunique, hkeys⟩
      obtain ⟨hname, hidentifier⟩ := requires_iff.mp hname
      obtain ⟨hkeys, hsequence⟩ := hlist.mp hkeys
      exact ⟨⟨hfields, fun s => by cases s <;> assumption⟩, hname, hkeys, trivial⟩
  · have hunique : law.draftOf t .unique = t.booleanAt? "unique" := map_asBoolean? h.unique
    rw [hunique]
    rfl

theorem nextIndex_yields (options : LoadOptions) (scope : KeyScope) (owner : Label)
    (done : List Index) (t : Tree) (position : Nat) :
    Yields (nextIndex options scope owner done t position)
      (IsIndex scope.properties scope.links t ∧
        (options.uniqueIndexNames = true → t.declaredName ∉ done.map (·.name)))
      (Reading.index scope.object scope.properties scope.links t) := by
  have htaken : (options.uniqueIndexNames && done.any fun i => i.name == t.declaredName) = true ↔
      options.uniqueIndexNames = true ∧ t.declaredName ∈ done.map (·.name) := by
    rw [Bool.and_eq_true]
    exact and_congr_right fun _ => any_beq_iff
  exact (unless_yields (index_yields scope owner t position) htaken).congr
    (and_congr_right fun _ => not_and) fun _ => rfl

theorem map_name_properties (types : List String) (t : Tree) :
    (Reading.properties types t).map (·.name) = t.namesAt "properties" := by
  rw [Reading.properties, Reading.marked, List.map_map]
  exact map_zipIdx Tree.declaredName _ 1

theorem map_name_links (objects : List String) (source : Nat) (t : Tree) :
    (Reading.links objects source t).map (·.name) = t.namesAt "links" := by
  rw [Reading.links, List.map_map]
  rfl

theorem map_name_indexes (object : Nat) (t : Tree) :
    (Reading.indexes object t).map (·.name) = t.namesAt "indexes" := by
  rw [Reading.indexes, List.map_map]
  rfl

/-- **The indexes of one object**, their names different if the options ask for it. -/
theorem objectIndexes_yields (options : LoadOptions) (types objects : List String) (t : Tree)
    (position : Nat) :
    Yields (objectIndexes options (objectOutlineOf types t) (Reading.links objects position t)
      position) (HasIndexes options t) (Reading.indexes position t) := by
  let owner := ownerLabel t.declaredName
  let scope : KeyScope := ⟨position, t.namesAt "properties", t.namesAt "links"⟩
  have hscope : (⟨position, (objectOutlineOf types t).properties.map (·.name),
      (Reading.links objects position t).map (·.name)⟩ : KeyScope) = scope := by
    rw [map_name_links]
    exact congrArg (KeyScope.mk position · _) (map_name_properties types t)
  have hlist : ∀ v : Tree,
      Yields (items v owner "indexes" >>= eachAfter (nextIndex options scope owner))
        (IsSequenceOf (IsIndex scope.properties scope.links) v ∧
          (options.uniqueIndexNames = true → (v.items.map Tree.declaredName).Nodup))
        (v.items.map (Reading.index position scope.properties scope.links)) := by
    intro v
    have hstep : ∀ done u i, Yields (nextIndex options scope owner done u i)
        (IsIndex scope.properties scope.links u ∧ (options.uniqueIndexNames = true →
          (Reading.index position scope.properties scope.links u).name ∉
            [] ++ done.map (·.name)))
        (Reading.index position scope.properties scope.links u) :=
      nextIndex_yields options scope owner
    have hall := eachAfter_yields List.nodup_nil Index.name hstep v.items
    rw [List.map_map] at hall
    exact sequence_yields v owner "indexes" hall
  rw [objectIndexes, hscope]
  refine (optional_items_yields "indexes" hlist).congr ?_ fun _ => rfl
  have hnames : Allows t "indexes" (fun v =>
        options.uniqueIndexNames = true → (v.items.map Tree.declaredName).Nodup) ↔
      (options.uniqueIndexNames = true → (t.namesAt "indexes").Nodup) :=
    allows_items_iff (Q := fun ts =>
      options.uniqueIndexNames = true → (ts.map Tree.declaredName).Nodup) fun _ => List.nodup_nil
  rw [allows_and_iff, hnames]
  exact ⟨fun h => ⟨h.1, h.2⟩, fun h => ⟨h.indexes, h.indexNames⟩⟩

/-- The indexes of all objects of a definition, object by object. -/
def indexesOf (d : Tree) : List (List Index) :=
  (d.itemsAt "objects").zipIdx.map fun (t, i) => Reading.indexes i t

/-- **The third pass.** -/
theorem indexes_yields (options : LoadOptions) (d : Tree) :
    Yields (indexes options (outlineOf d) (linksOf d))
      (∀ t ∈ d.itemsAt "objects", HasIndexes options t) (indexesOf d) := by
  have hobjects : (outlineOf d).objects.zip (linksOf d) =
      (d.itemsAt "objects").zipIdx.map fun x =>
        (objectOutlineOf (visibleTypes d) x.1, Reading.links (d.namesAt "objects") x.2 x.1) := by
    rw [objects_outlineOf, linksOf, List.zip_map']
  exact pass_yields (f := fun x => objectIndexes options x.1.1 x.1.2 x.2) hobjects
    fun t i => objectIndexes_yields options _ (d.namesAt "objects") t i

end Load

end Blueprint
