import Blueprint.Proofs.Load.FieldOrder

/-!
# Fields that come twice

A field of a fragment is set once. When it comes again the fragment is refused for that, and for
nothing else that may be wrong with the second value: the repetition is noticed before the value
is looked at, and before names are resolved in it (`Blueprint.Load.repeated_field_refused`).

| statement | about |
|---|---|
| `Blueprint.Form.isSome_of_enter` | what one entry adds to the slots that are filled |
| `Blueprint.Form.isSome_of_enterAll` | which slots are filled after some entries |
| `Blueprint.Form.enterAll_repeated` | an entry that finds its slot filled |
| `Blueprint.Load.Reads.repeated` | the same of the readers of all kinds of fragments |
| `Blueprint.Load.StandsIn.nodup` | fragments of a definition that loads |

The two fields of an index key share one slot. Either of them repeats the other, and what a
complaint calls repeated is then the reference of the key.
-/

namespace Blueprint

/-! ### Entering entries into slots -/

namespace Form

open Load

variable {F : Form} {entries : Entries} {entry : String × Tree} {d d' : F.Draft}

/-- An entry that is accepted has filled the slot of its key. -/
theorem enter_eq_ok (h : F.enter d entry = .ok d') :
    ∃ s v, F.slot? entry.1 = some s ∧ d' = Draft.fill d s v := by
  rw [enter] at h
  cases hs : F.slot? entry.1 with
  | none =>
    rw [hs] at h
    cases h
  | some s =>
    rw [hs] at h
    dsimp only at h
    split at h
    · cases h
    · cases hv : F.read d entry.1 s entry.2 with
      | error e =>
        rw [hv] at h
        cases h
      | ok v =>
        rw [hv] at h
        exact ⟨s, v, rfl, (Except.ok.inj h).symm⟩

/-- **What one entry adds to the slots that are filled**: the slot of its key. -/
theorem isSome_of_enter (h : F.enter d entry = .ok d') (s : F.Slot) :
    (d' s).isSome = true ↔ (d s).isSome = true ∨ F.slot? entry.1 = some s := by
  obtain ⟨t, v, ht, rfl⟩ := enter_eq_ok h
  rw [ht, Draft.fill, Option.some.injEq]
  by_cases hts : t = s
  · subst hts
    rw [dif_pos rfl]
    exact iff_of_true rfl (.inr rfl)
  · rw [dif_neg hts]
    exact (or_iff_left hts).symm

/-- **The slots that are filled after some entries are those of their keys.** -/
theorem isSome_of_enterAll (h : F.enterAll entries = .ok d) (s : F.Slot) :
    (d s).isSome = true ↔ ∃ entry ∈ entries, F.slot? entry.1 = some s := by
  induction entries using List.reverseRecOn generalizing d with
  | nil =>
    obtain rfl : F.blank = d := Except.ok.inj h
    exact iff_of_false Bool.false_ne_true fun ⟨_, hmem, _⟩ => nomatch hmem
  | append_singleton entries entry ih =>
    rw [enterAll_concat] at h
    obtain ⟨before, hbefore, h⟩ := bind_eq_ok_iff.mp h
    rw [isSome_of_enter h s, ih hbefore]
    simp only [List.mem_append, List.mem_singleton, or_and_right, exists_or, exists_eq_left]

/-- Every entry that is accepted has a slot. -/
theorem exists_slot_of_enterAll (h : F.enterAll entries = .ok d) :
    ∀ entry ∈ entries, ∃ s, F.slot? entry.1 = some s := by
  induction entries using List.reverseRecOn generalizing d with
  | nil => exact fun entry hmem => nomatch hmem
  | append_singleton entries entry ih =>
    rw [enterAll_concat] at h
    obtain ⟨before, hbefore, h⟩ := bind_eq_ok_iff.mp h
    obtain ⟨s, _, hs, -⟩ := enter_eq_ok h
    rw [List.forall_mem_append, List.forall_mem_singleton]
    exact ⟨ih hbefore, s, hs⟩

/-- **An entry that finds its slot filled ends the reading**, whatever its value and whatever
comes after it. -/
theorem enterAll_repeated {key : String} {s : F.Slot} (h : F.enterAll entries = .ok d)
    (hkey : F.slot? key = some s) (hs : (d s).isSome = true) (value : Tree) (rest : Entries) :
    F.enterAll (entries ++ (key, value) :: rest) =
      .error (.duplicateDefinition (F.label d) (F.slotName s)) := by
  have henter : F.enter d (key, value) = .error (.duplicateDefinition (F.label d) (F.slotName s)) := by
    rw [enter, hkey]
    exact if_pos hs
  rw [enterAll] at h ⊢
  rw [List.foldlM_append, h]
  change (F.enter d (key, value) >>= fun d => rest.foldlM F.enter d) = _
  rw [henter]
  rfl

end Form

/-! ### The kinds of fragments -/

/-- **The fragments that are read field by field.** -/
inductive FragmentKind where
  | definition
  | dataType
  | value
  | attributeItem
  | object
  | property
  | link
  | index
  | key
  | file

namespace FragmentKind

/-- The fields of a fragment. -/
def fields : FragmentKind → List String
  | .definition => ["name", "datatypes", "attributes", "objects", "files"]
  | .dataType => ["name", "type", "values"]
  | .value => ["value"]
  | .attributeItem => ["name", "value"]
  | .object => ["name", "properties", "attributes", "links", "indexes"]
  | .property => ["name", "type", "mandatory", "default", "secret", "pattern", "minimum", "maximum",
    "attributes"]
  | .link => ["name", "target", "mandatory"]
  | .index => ["name", "unique", "keys"]
  | .key => ["property", "link"]
  | .file => ["scope", "input", "output"]

/-- What is set by a field: the field itself, and by either field of a key its reference. -/
def setBy : FragmentKind → String → String
  | .key, _ => "reference"
  | _, field => field

/-- The kind of the fragments that a field of another fragment lists. -/
def listedIn? : FragmentKind → String → Option FragmentKind
  | .definition, "datatypes" => some .dataType
  | .definition, "attributes" => some .attributeItem
  | .definition, "objects" => some .object
  | .definition, "files" => some .file
  | .dataType, "values" => some .value
  | .object, "properties" => some .property
  | .object, "attributes" => some .attributeItem
  | .object, "links" => some .link
  | .object, "indexes" => some .index
  | .property, "attributes" => some .attributeItem
  | .index, "keys" => some .key
  | _, _ => none

open Grammar in
/-- What the grammar asks of the fragments of a kind. -/
def Accepts (options : LoadOptions) : FragmentKind → Tree → Prop
  | .definition, t => IsDefinition options t
  | .dataType, t => IsDataType t
  | .value, t => IsEnumerationValue t
  | .attributeItem, t => IsAttribute t
  | .object, t => ∃ types objects, IsObject options types objects t
  | .property, t => ∃ types, IsProperty types t
  | .link, t => ∃ objects, IsLink objects t
  | .index, t => ∃ properties links, IsIndex properties links t
  | .key, t => ∃ properties links, IsIndexKey properties links t
  | .file, t => IsFile t

end FragmentKind

/-- **A form has these fields**: each of them fills a slot, and what it sets tells the slots
apart. -/
structure Form.HasFields (F : Form) (kind : FragmentKind) : Prop where
  exists_slot : ∀ key ∈ kind.fields, ∃ s, F.slot? key = some s
  slotName_eq : ∀ {key s}, F.slot? key = some s → F.slotName s = kind.setBy key
  slotName_injective : ∀ {s t}, F.slotName s = F.slotName t → s = t

/-- Under a law every slot has a field of its own. -/
theorem Form.Law.hasFields {F : Form} (L : F.Law) {kind : FragmentKind}
    (hfields : L.fields = kind.fields) (hset : ∀ key, kind.setBy key = key) :
    F.HasFields kind := by
  refine ⟨fun key hkey => ?_, fun hs => ?_, L.slotName_injective⟩
  · rw [← hfields] at hkey
    obtain ⟨s, hs⟩ := L.mem_fields_iff.mp hkey
    exact ⟨s, L.slot?_eq_some_iff.mpr hs⟩
  · rw [hset]
    exact L.slot?_eq_some_iff.mp hs

namespace Load

open Grammar

/-! ### Readers of fragments -/

/-- **How fragments are read**: the form that the entries are entered into, and the reader that
makes an entity of them. -/
inductive Reads : FragmentKind → Form → (α : Type) → (Tree → Except LoadError α) → Prop
  | definition (options : LoadOptions) : Reads .definition projectForm Project (load options)
  | dataType (existing : List DataType) (position : Nat) :
      Reads .dataType (dataTypeForm position) DataType fun t => dataType existing t position
  | value (entity : Label) :
      Reads .value (valueForm entity) String fun t => enumerationValue t entity
  | attributeItem (owner : Label) (position : Nat) :
      Reads .attributeItem (attributeForm owner position) (String × Scalar)
        fun t => attributeItem owner t position
  | object (types : List DataType) (position : Nat) :
      Reads .object (objectForm types position) ObjectOutline
        fun t => objectOutline types t position
  | property (types : List DataType) (object : Label) (position : Nat) :
      Reads .property (propertyForm types object position) Property
        fun t => property types object t position
  | link (objects : List String) (source : Nat) (owner : Label) (position : Nat) :
      Reads .link (linkForm objects owner position) Link
        fun t => link objects source owner t position
  | index (scope : KeyScope) (owner : Label) (position : Nat) :
      Reads .index (indexForm scope owner position) Index fun t => index scope owner t position
  | key (scope : KeyScope) (index : Label) (position : Nat) :
      Reads .key (keyForm scope (index.within .key (.numbered position))) IndexKey
        fun t => indexKey scope index t position
  | file (position : Nat) : Reads .file (fileForm position) OutputFile fun t => file t position

namespace Reads

variable {kind : FragmentKind} {F : Form} {α : Type} {read : Tree → Except LoadError α}

/-- **Every reader enters the entries of a fragment first.** -/
theorem exists_finish (h : Reads kind F α read) :
    ∃ finish : F.Draft → Except LoadError α,
      ∀ entries, read (.mapping entries) = F.enterAll entries >>= finish := by
  cases h with
  | definition options =>
    -- Of a definition the first pass enters the entries, and the later passes follow.
    obtain ⟨first, hfirst⟩ : ∃ finish, ∀ entries,
        outline (.mapping entries) = projectForm.enterAll entries >>= finish := ⟨_, fun _ => rfl⟩
    obtain ⟨later, hlater⟩ : ∃ finish, ∀ t, load options t = outline t >>= finish :=
      ⟨_, fun _ => rfl⟩
    refine ⟨fun d => first d >>= later, fun entries => ?_⟩
    rw [hlater, hfirst, bind_assoc]
  | _ => exact ⟨_, fun _ => rfl⟩

theorem hasFields (h : Reads kind F α read) : F.HasFields kind := by
  cases h with
  | definition _ => exact projectLaw.hasFields rfl fun _ => rfl
  | dataType _ position => exact (dataTypeLaw position).hasFields rfl fun _ => rfl
  | value entity => exact (valueLaw entity).hasFields rfl fun _ => rfl
  | attributeItem owner position => exact (attributeLaw owner position).hasFields rfl fun _ => rfl
  | object types position => exact (objectLaw types position).hasFields rfl fun _ => rfl
  | property types object position =>
    exact (propertyLaw types object position).hasFields rfl fun _ => rfl
  | link objects _ owner position =>
    exact (linkLaw objects owner position).hasFields rfl fun _ => rfl
  | index scope owner position => exact (indexLaw scope owner position).hasFields rfl fun _ => rfl
  | key scope index position =>
    -- A key has one slot, and two fields that fill it.
    refine ⟨fun key hkey => ⟨(), ?_⟩, fun _ => rfl, fun _ => rfl⟩
    simp only [FragmentKind.fields, List.mem_cons, List.not_mem_nil, or_false] at hkey
    rcases hkey with rfl | rfl <;> rfl
  | file position => exact (fileLaw position).hasFields rfl fun _ => rfl

/-- **A repeated field is refused for being repeated**, in a fragment of any kind. -/
theorem repeated (h : Reads kind F α read) {entries : Entries} {d : F.Draft}
    (hd : F.enterAll entries = .ok d) {key : String} (hkey : key ∈ kind.fields)
    (hset : kind.setBy key ∈ entries.map fun entry => kind.setBy entry.1) (value : Tree)
    (rest : Entries) :
    read (.mapping (entries ++ (key, value) :: rest)) =
      .error (.duplicateDefinition (F.label d) (kind.setBy key)) := by
  obtain ⟨s, hs⟩ := h.hasFields.exists_slot key hkey
  have hname := h.hasFields.slotName_eq hs
  have hfilled : (d s).isSome = true := by
    obtain ⟨entry, hmem, hsame⟩ := List.mem_map.mp hset
    obtain ⟨t, ht⟩ := Form.exists_slot_of_enterAll hd entry hmem
    have hst : t = s := h.hasFields.slotName_injective
      ((h.hasFields.slotName_eq ht).trans (hsame.trans hname.symm))
    exact (Form.isSome_of_enterAll hd s).mpr ⟨entry, hmem, hst ▸ ht⟩
  obtain ⟨finish, hfinish⟩ := h.exists_finish
  rw [hfinish, Form.enterAll_repeated hd hs hfilled, hname]
  rfl

end Reads

/-! ### Fragments of a definition -/

/-- **The fragments that stand in a definition**: the definition itself, and the items of the
lists in its fragments. -/
inductive StandsIn (d : Tree) : FragmentKind → Tree → Prop
  | definition : StandsIn d .definition d
  | item {kind inner : FragmentKind} {entries : Entries} {key : String} {ts : List Tree} {t : Tree}
      (h : StandsIn d kind (.mapping entries)) (hentry : (key, .sequence ts) ∈ entries)
      (hkind : kind.listedIn? key = some inner) (ht : t ∈ ts) : StandsIn d inner t

section Accepted

variable {options : LoadOptions} {kind inner : FragmentKind} {entries : Entries} {key : String}
  {v : Tree} {ts : List Tree} {P : Tree → Prop} {fields : List String}

/-- An entry of a record is what its key leads to. -/
theorem get?_of_mem (h : IsRecord fields (.mapping entries)) (hentry : (key, v) ∈ entries) :
    (Tree.mapping entries).get? key = some v := by
  obtain ⟨_, ⟨⟩, hnodup, -⟩ := h
  exact (Tree.lookup?_eq_some_iff hnodup).mpr hentry

theorem forall_mem_of_allows (h : Allows (.mapping entries) key (IsSequenceOf P))
    (hget : (Tree.mapping entries).get? key = some (.sequence ts)) : ∀ t ∈ ts, P t := by
  obtain ⟨_, ⟨⟩, hall⟩ := h _ hget
  exact hall

theorem forall_mem_of_requires (h : Requires (.mapping entries) key (IsNonemptySequenceOf P))
    (hget : (Tree.mapping entries).get? key = some (.sequence ts)) : ∀ t ∈ ts, P t :=
  forall_mem_of_allows (fun v hv => ((requires_iff.mp h).2 v hv).1) hget

/-- Attributes that stand in a list are those of the list notation. -/
theorem forall_mem_of_attributes (h : Allows (.mapping entries) key IsAttributes)
    (hget : (Tree.mapping entries).get? key = some (.sequence ts)) : ∀ t ∈ ts, IsAttribute t := by
  rcases h _ hget with ⟨_, hmapping, -⟩ | ⟨⟨_, ⟨⟩, hall⟩, -⟩
  · exact nomatch hmapping
  · exact hall

/-- **What stands in a list of an accepted fragment is accepted.** -/
theorem accepts_item (h : kind.Accepts options (.mapping entries))
    (hentry : (key, .sequence ts) ∈ entries) (hkind : kind.listedIn? key = some inner) :
    ∀ t ∈ ts, inner.Accepts options t := by
  unfold FragmentKind.listedIn? at hkind
  split at hkind <;> cases hkind
  case h_1 => exact forall_mem_of_allows h.dataTypes (get?_of_mem h.fields hentry)
  case h_2 => exact forall_mem_of_attributes h.attributes (get?_of_mem h.fields hentry)
  case h_3 =>
    intro t ht
    exact ⟨_, _, forall_mem_of_requires h.objects (get?_of_mem h.fields hentry) t ht⟩
  case h_4 => exact forall_mem_of_requires h.files (get?_of_mem h.fields hentry)
  case h_5 => exact forall_mem_of_requires h.values (get?_of_mem h.fields hentry)
  case h_6 =>
    obtain ⟨types, _, h⟩ := h
    exact fun t ht => ⟨types, forall_mem_of_requires h.properties (get?_of_mem h.fields hentry) t ht⟩
  case h_7 =>
    obtain ⟨_, _, h⟩ := h
    exact forall_mem_of_attributes h.attributes (get?_of_mem h.fields hentry)
  case h_8 =>
    obtain ⟨_, objects, h⟩ := h
    exact fun t ht => ⟨objects, forall_mem_of_allows h.links (get?_of_mem h.fields hentry) t ht⟩
  case h_9 =>
    obtain ⟨_, _, h⟩ := h
    exact fun t ht => ⟨_, _, forall_mem_of_allows h.indexes (get?_of_mem h.fields hentry) t ht⟩
  case h_10 =>
    obtain ⟨_, h⟩ := h
    exact forall_mem_of_attributes h.attributes (get?_of_mem h.fields hentry)
  case h_11 =>
    obtain ⟨_, _, h⟩ := h
    exact fun t ht => ⟨_, _, forall_mem_of_requires h.keys (get?_of_mem h.fields hentry) t ht⟩

/-- **An accepted fragment sets nothing twice.** -/
theorem nodup_of_accepts (h : kind.Accepts options (.mapping entries)) :
    (entries.map fun entry => kind.setBy entry.1).Nodup := by
  have hrecord : ∀ {fields}, IsRecord fields (.mapping entries) → (entries.map (·.1)).Nodup := by
    rintro _ ⟨_, ⟨⟩, hnodup, -⟩
    exact hnodup
  cases kind with
  | definition => exact hrecord h.fields
  | dataType => exact hrecord h.fields
  | value =>
    rcases h with ⟨_, htext, -⟩ | ⟨hfields, -⟩
    · exact nomatch htext
    · exact hrecord hfields
  | attributeItem => exact hrecord h.fields
  | object =>
    obtain ⟨_, _, h⟩ := h
    exact hrecord h.fields
  | property =>
    obtain ⟨_, h⟩ := h
    exact hrecord h.fields
  | link =>
    obtain ⟨_, h⟩ := h
    exact hrecord h.fields
  | index =>
    obtain ⟨_, _, h⟩ := h
    exact hrecord h.fields
  | key =>
    obtain ⟨_, _, _, _, ⟨⟩, -⟩ := h
    exact List.nodup_singleton _
  | file => exact hrecord h.fields

end Accepted

/-- Every fragment of an accepted definition is accepted. -/
theorem StandsIn.accepts {options : LoadOptions} {d t : Tree} {kind : FragmentKind}
    (h : StandsIn d kind t) (hd : IsDefinition options d) : kind.Accepts options t := by
  induction h with
  | definition => exact hd
  | item _ hentry hkind ht ih => exact accepts_item ih hentry hkind _ ht

/-- **No fragment of a definition that loads sets anything twice.** -/
theorem StandsIn.nodup {options : LoadOptions} {d : Tree} {p : Project} {kind : FragmentKind}
    {entries : Entries} (h : StandsIn d kind (.mapping entries)) (hp : load options d = .ok p) :
    (entries.map fun entry => kind.setBy entry.1).Nodup :=
  nodup_of_accepts (h.accepts ((load_yields options d p).mp hp).1)

/-! ### Repetition comes first -/

/-- **A field is set once, and a repetition is noticed first.** A fragment of any kind whose first
entries have been accepted is refused for the next one if they have set its field before, whatever
its value is and whatever follows; the two fields of an index key set one and the same thing. So
nothing is set twice in any fragment of a definition that loads. -/
theorem repeated_field_refused :
    (∀ {kind : FragmentKind} {F : Form} {α : Type} {read : Tree → Except LoadError α},
      Reads kind F α read → ∀ (entries : Entries) (d : F.Draft), F.enterAll entries = .ok d →
        ∀ key ∈ kind.fields, (kind.setBy key ∈ entries.map fun entry => kind.setBy entry.1) →
          ∀ value rest, read (.mapping (entries ++ (key, value) :: rest)) =
            .error (.duplicateDefinition (F.label d) (kind.setBy key))) ∧
    ∀ {options : LoadOptions} {d : Tree} {p : Project}, load options d = .ok p →
      ∀ {kind : FragmentKind} {entries : Entries}, StandsIn d kind (.mapping entries) →
        (entries.map fun entry => kind.setBy entry.1).Nodup := by
  constructor
  · intro kind F α read h entries d hd key hkey hset value rest
    exact h.repeated hd hkey hset value rest
  · intro options d p hp kind entries h
    exact h.nodup hp

/-- A definition named twice, where the second name is no text; an object with its links twice; an
index key that names a property and then a link; and a key of the shop, which names one thing. -/
theorem repeated_field_refused_shop :
    load .default (.mapping [("name", .string " shop "), ("name", .null), ("color", .null)]) =
      .error (.duplicateDefinition (projectLabel (some "shop")) "name") ∧
    objectOutline [] (.mapping [("name", .string "User"), ("links", .null), ("links", .null)]) 1 =
      .error (.duplicateDefinition (objectLabel 1 (some "User")) "links") ∧
    indexKey ⟨0, ["id"], []⟩ (ownerLabel "User")
        (.mapping [("property", .string "id"), ("link", .string "none")]) 1 =
      .error (.duplicateDefinition ((ownerLabel "User").within .key (.numbered 1)) "reference") ∧
    StandsIn shop .key (.mapping [("link", .string "best ")]) ∧
      (["link"].map fun key => FragmentKind.key.setBy key).Nodup := by
  have hobject : StandsIn shop .object _ :=
    .item .definition (.tail _ (.tail _ (.head _))) rfl (.head _)
  have hindex : StandsIn shop .index _ :=
    hobject.item (.tail _ (.tail _ (.tail _ (.head _)))) rfl (.head _)
  have hkey : StandsIn shop .key (.mapping [("link", .string "best ")]) :=
    hindex.item (.tail _ (.head _)) rfl (.tail _ (.head _))
  refine ⟨?_, ?_, ?_, hkey, repeated_field_refused.2 load_shop hkey⟩
  · exact repeated_field_refused.1 (.definition .default) [("name", .string " shop ")] _ rfl "name"
      (by decide) (by decide) .null [("color", .null)]
  · exact repeated_field_refused.1 (.object [] 1) [("name", .string "User"), ("links", .null)] _ rfl
      "links" (by decide) (by decide) .null []
  · exact repeated_field_refused.1 (.key ⟨0, ["id"], []⟩ (ownerLabel "User") 1)
      [("property", .string "id")] _ rfl "link" (by decide) (by decide) (.string "none") []

end Load

end Blueprint
