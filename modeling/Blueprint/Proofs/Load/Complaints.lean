import Blueprint.Load.Index
import Blueprint.Proofs.Outcome

/-!
# What complaints are about

A complaint names the entity that it is about, with everything around that entity. A reader of a
part of an entity is handed the label of the entity, and puts its own part in front of it, so
whatever is wrong inside, the label of the complaint still ends in the one that was handed down:
`Blueprint.Load.Blames owner x` says that of a reading `x`. The lemmas of this file follow the
readers from single values up to the properties, links and indexes of an object.

A form changes the label of its entity while it is filled in, since an entity is called by its name
as soon as that has been read. What a form complains of is therefore said for every draft
(`Blueprint.Form.BlamesOwn`), and the label that counts is the one of the draft at which the reading
ended. The entries that have been entered by then are `Blueprint.Form.entered`.

| reading | lemma |
|---|---|
| one step after another | `Blueprint.Load.Blames.bind` |
| a list, item by item | `Blueprint.Load.Blames.each`, `Blueprint.Load.Blames.eachAfter` |
| the entries of a fragment | `Blueprint.Form.BlamesOwn.draft` |
| the same, with the entries before the fault | `Blueprint.Form.BlamesOwn.draft_eq_error` |
-/

namespace Blueprint

/-- **The entity that a complaint is about.** A project that is incomplete is complained of without
one. -/
def LoadError.entity? : LoadError → Option Label
  | .duplicateDefinition entity _ => some entity
  | .emptyValue entity _ => some entity
  | .invalidShape entity _ _ => some entity
  | .invalidIdentifier entity _ _ => some entity
  | .missingRequiredField entity _ => some entity
  | .unknownAttribute entity _ => some entity
  | .unknownDataType entity _ => some entity
  | .unresolvedLinkTarget entity _ => some entity
  | .unresolvedIndexKey entity _ _ => some entity
  | .rangeViolation entity _ _ => some entity
  | .incompleteProject _ => none

/-- **A complaint about an entity or something inside it.** -/
def LoadError.IsWithin (e : LoadError) (owner : Label) : Prop :=
  ∃ entity, e.entity? = some entity ∧ owner <:+ entity

theorem LoadError.IsWithin.mono {e : LoadError} {owner inner : Label} (h : e.IsWithin inner)
    (hinner : owner <:+ inner) : e.IsWithin owner := by
  obtain ⟨entity, hentity, hsuffix⟩ := h
  exact ⟨entity, hentity, hinner.trans hsuffix⟩

/-- What is inside an entity has its label at the end. -/
theorem Label.suffix_within (owner : Label) (kind : EntityKind) (designation : Designation) :
    owner <:+ owner.within kind designation :=
  List.suffix_cons _ _

namespace Load

/-- **A reading that complains of nothing but an entity and what is inside it.** -/
def Blames {α : Type} (owner : Label) (x : Except LoadError α) : Prop :=
  ∀ e, x = .error e → e.IsWithin owner

namespace Blames

variable {α β : Type} {owner inner : Label} {x : Except LoadError α}

protected theorem ok (a : α) : Blames owner (.ok a) :=
  fun _ h => nomatch h

/-- The error names the entity itself. -/
protected theorem error {e : LoadError} (h : e.entity? = some owner) :
    Blames owner (.error e : Except LoadError α) := by
  intro e' he
  obtain rfl := Except.error.inj he
  exact ⟨owner, h, List.suffix_rfl⟩

theorem mono (h : Blames inner x) (hinner : owner <:+ inner) : Blames owner x :=
  fun e he => (h e he).mono hinner

/-- A complaint about something inside an entity. -/
theorem of_within {kind : EntityKind} {designation : Designation}
    (h : Blames (owner.within kind designation) x) : Blames owner x :=
  h.mono (owner.suffix_within kind designation)

theorem bind {f : α → Except LoadError β} (h : Blames owner x) (hf : ∀ a, Blames owner (f a)) :
    Blames owner (x >>= f) := by
  intro e he
  rcases bind_eq_error_iff.mp he with hx | ⟨a, -, hfa⟩
  · exact h e hx
  · exact hf a e hfa

theorem map (h : Blames owner x) (f : α → β) : Blames owner (x.map f) := by
  intro e he
  cases x with
  | ok a => exact nomatch he
  | error e' =>
    obtain rfl := Except.error.inj he
    exact h e' rfl

/-- A value with a reason to refuse it. -/
theorem ite_error {c : Prop} [Decidable c] {e : LoadError} (he : e.entity? = some owner) (a : α) :
    Blames owner (if c then .error e else .ok a) := by
  by_cases hc : c
  · rw [if_pos hc]
    exact .error he
  · rw [if_neg hc]
    exact .ok a

theorem orError {o : Option α} {e : LoadError} (he : e.entity? = some owner) :
    Blames owner (orError o e) := by
  cases o with
  | none => exact .error he
  | some a => exact .ok a

/-- **A loop**, each of whose steps complains of the same entity. -/
theorem foldlM {σ : Type} {f : σ → β → Except LoadError σ} (hf : ∀ s b, Blames owner (f s b))
    (xs : List β) (s : σ) : Blames owner (xs.foldlM f s) := by
  induction xs generalizing s with
  | nil => exact .ok s
  | cons x xs ih =>
    rw [List.foldlM_cons]
    exact (hf s x).bind ih

theorem mapM {f : β → Except LoadError α} (hf : ∀ b, Blames owner (f b)) (xs : List β) :
    Blames owner (xs.mapM f) := by
  induction xs with
  | nil => exact .ok []
  | cons x xs ih =>
    rw [List.mapM_cons]
    exact (hf x).bind fun a => ih.bind fun as => .ok (a :: as)

theorem each {read : Tree → Nat → Except LoadError α} (hread : ∀ t i, Blames owner (read t i))
    (ts : List Tree) : Blames owner (each read ts) :=
  mapM (fun x : Tree × Nat => hread x.1 x.2) _

theorem eachAfter {read : List α → Tree → Nat → Except LoadError α}
    (hread : ∀ done t i, Blames owner (read done t i)) (ts : List Tree) :
    Blames owner (eachAfter read ts) :=
  foldlM (fun done (x : Tree × Nat) => (hread done x.1 x.2).bind fun a => .ok (done ++ [a])) _ _

end Blames

/-! ### Single values -/

section Values

variable (raw : Tree) (entity : Label) (field : String)

theorem blames_text : Blames entity (text raw entity field) := by
  cases raw with
  | string s => exact .ite_error rfl _
  | _ => exact .error rfl

theorem blames_identifier : Blames entity (identifier raw entity field) :=
  (blames_text raw entity field).bind fun _ => .ite_error rfl _

theorem blames_boolean : Blames entity (boolean raw entity field) := .orError rfl

theorem blames_number : Blames entity (number raw entity field) := .orError rfl

theorem blames_scalar : Blames entity (scalar raw entity field) := .orError rfl

theorem blames_items : Blames entity (items raw entity field) := .orError rfl

theorem blames_required {α : Type} (value : Option α) :
    Blames entity (required value entity field) :=
  .orError rfl

theorem blames_attributeValue : Blames entity (attributeValue raw entity) := by
  cases raw with
  | string s => exact .ite_error rfl _
  | boolean b => exact .ok (Scalar.boolean b)
  | number n => exact .ok (Scalar.number n)
  | null | sequence _ | mapping _ => exact .error rfl

end Values

end Load

/-! ### Forms -/

namespace Form

open Load

variable {F : Form}

/-- The entries that can be entered one after another, from a draft on. -/
def enteredFrom (F : Form) (d : F.Draft) : Entries → Entries
  | [] => []
  | entry :: rest =>
    match F.enter d entry with
    | .ok d' => entry :: F.enteredFrom d' rest
    | .error _ => []

/-- **The entries of a fragment that have been read when its reading ends**: all of them, or those
before the first one that is refused. -/
def entered (F : Form) : Tree → Entries
  | .mapping entries => F.enteredFrom F.blank entries
  | _ => []

/-- A loop over entries that are all accepted. -/
theorem enteredFrom_of_ok {entries : Entries} {d d' : F.Draft}
    (h : entries.foldlM F.enter d = .ok d') : F.enteredFrom d entries = entries := by
  induction entries generalizing d with
  | nil => rfl
  | cons entry rest ih =>
    rw [List.foldlM_cons] at h
    obtain ⟨next, hnext, hrest⟩ := bind_eq_ok_iff.mp h
    rw [enteredFrom, hnext]
    exact congrArg (entry :: ·) (ih hrest)

/-- **A loop that is ended by an entry**: the entries before it have been accepted, and it is
refused in their light. -/
theorem enteredFrom_of_error {entries : Entries} {d : F.Draft} {e : LoadError}
    (h : entries.foldlM F.enter d = .error e) :
    ∃ d' entry, (F.enteredFrom d entries).foldlM F.enter d = .ok d' ∧
      F.enter d' entry = .error e := by
  induction entries generalizing d with
  | nil => exact nomatch h
  | cons entry rest ih =>
    rw [List.foldlM_cons] at h
    rcases bind_eq_error_iff.mp h with hentry | ⟨next, hnext, hrest⟩
    · rw [enteredFrom, hentry]
      exact ⟨d, entry, rfl, hentry⟩
    · obtain ⟨d', last, hd', hlast⟩ := ih hrest
      refine ⟨d', last, ?_, hlast⟩
      rw [enteredFrom, hnext]
      change (entry :: F.enteredFrom next rest).foldlM F.enter d = .ok d'
      rw [List.foldlM_cons, hnext]
      exact hd'

variable (F) in
/-- **A form that complains of its own entity**, as it is called at the time, or of something
inside. -/
def BlamesOwn : Prop := ∀ d key s raw, Blames (F.label d) (F.read d key s raw)

namespace BlamesOwn

variable (h : F.BlamesOwn)

include h

theorem enter (d : F.Draft) (entry : String × Tree) : Blames (F.label d) (F.enter d entry) := by
  rw [Form.enter]
  cases F.slot? entry.1 with
  | none => exact .error rfl
  | some s =>
    dsimp only
    split
    · exact .error rfl
    · exact (h d entry.1 s entry.2).map _

/-- **A fragment is refused for its own entity**, as it is called after the entries that have been
read. -/
theorem draft_eq_error {t : Tree} {e : LoadError} (he : F.draft t = .error e) :
    ∃ d, F.enterAll (F.entered t) = .ok d ∧ e.IsWithin (F.label d) := by
  cases t with
  | mapping entries =>
    obtain ⟨d, entry, hd, hentry⟩ := enteredFrom_of_error he
    exact ⟨d, hd, h.enter d entry e hentry⟩
  | _ =>
    obtain rfl := Except.error.inj he
    exact ⟨F.blank, rfl, _, rfl, List.suffix_rfl⟩

/-- However far its reading has come, an entity is labelled inside its owner, and so are the
complaints about it. -/
theorem draft {owner : Label} (hlabel : ∀ d, owner <:+ F.label d) (t : Tree) :
    Blames owner (F.draft t) := by
  intro e he
  obtain ⟨d, -, hwithin⟩ := h.draft_eq_error he
  exact hwithin.mono (hlabel d)

end BlamesOwn

end Form

namespace Load

/-! ### Attributes -/

theorem blamesOwn_attributeForm (owner : Label) (position : Nat) :
    (attributeForm owner position).BlamesOwn := by
  intro d key s raw
  cases s with
  | name => exact blames_identifier _ _ _
  | value => exact blames_attributeValue _ _

theorem blames_attributeItem (owner : Label) (raw : Tree) (position : Nat) :
    Blames owner (attributeItem owner raw position) := by
  have hlabel : ∀ d, owner <:+ (attributeForm owner position).label d :=
    fun d => owner.suffix_within _ _
  refine ((blamesOwn_attributeForm owner position).draft hlabel raw).bind fun d => ?_
  refine ((blames_required _ _ _).mono (hlabel d)).bind fun name => ?_
  exact ((blames_required _ _ _).mono (hlabel d)).bind fun value => .ok (name, value)

theorem blames_addAttribute (owner : Label) (m : AttributeMap) (name : String) (value : Scalar) :
    Blames owner (addAttribute owner m name value) :=
  .orError rfl

/-- **Attributes are complained of inside their owner**, in either notation. -/
theorem blames_attributes (raw : Tree) (owner : Label) : Blames owner (attributes raw owner) := by
  cases raw with
  | mapping entries =>
    refine .foldlM (fun m entry => ?_) _ _
    refine (blames_identifier _ _ _).of_within.bind fun name => ?_
    exact (blames_attributeValue _ _).of_within.bind fun value => blames_addAttribute _ _ _ _
  | sequence ts =>
    refine .foldlM (fun m item => ?_) _ _
    exact (blames_attributeItem owner item.1 item.2).bind fun x => blames_addAttribute _ _ _ _
  | _ => exact .error rfl

/-! ### Properties -/

theorem blames_propertyType (types : List DataType) (raw : Tree) (entity : Label) :
    Blames entity (propertyType types raw entity) :=
  (blames_text raw entity "type").bind fun _ => .orError rfl

theorem blamesOwn_propertyForm (types : List DataType) (object : Label) (position : Nat) :
    (propertyForm types object position).BlamesOwn := by
  intro d key s raw
  cases s with
  | name => exact blames_identifier _ _ _
  | type => exact blames_propertyType _ _ _
  | mandatory => exact blames_boolean _ _ _
  | defaultValue => exact blames_scalar _ _ _
  | secret => exact blames_boolean _ _ _
  | pattern => exact blames_text _ _ _
  | minimum => exact blames_number _ _ _
  | maximum => exact blames_number _ _ _
  | attributes => exact blames_attributes _ _

theorem blames_property (types : List DataType) (object : Label) (t : Tree) (position : Nat) :
    Blames object (property types object t position) := by
  have hlabel : ∀ d, object <:+ (propertyForm types object position).label d :=
    fun d => object.suffix_within _ _
  refine ((blamesOwn_propertyForm types object position).draft hlabel t).bind fun d => ?_
  refine ((blames_required _ _ _).mono (hlabel d)).bind fun name => ?_
  refine ((blames_required _ _ _).mono (hlabel d)).bind fun type => ?_
  cases crossed (d PropertySlot.minimum) (d PropertySlot.maximum) with
  | none => exact .ok _
  | some bounds => exact (Blames.error rfl).mono (hlabel d)

theorem blames_properties (types : List DataType) (raw : Tree) (object : Label) :
    Blames object (properties types raw object) := by
  refine (blames_items raw object "properties").bind fun ts => ?_
  exact (Blames.each (fun t i => blames_property types object t i) ts).bind fun list => .ok _

/-! ### Links -/

theorem blamesOwn_linkForm (objects : List String) (owner : Label) (position : Nat) :
    (linkForm objects owner position).BlamesOwn := by
  intro d key s raw
  cases s with
  | name => exact blames_identifier _ _ _
  | target => exact (blames_text _ _ _).bind fun _ => .orError rfl
  | mandatory => exact blames_boolean _ _ _

theorem blames_link (objects : List String) (source : Nat) (owner : Label) (t : Tree)
    (position : Nat) : Blames owner (link objects source owner t position) := by
  have hlabel : ∀ d, owner <:+ (linkForm objects owner position).label d :=
    fun d => owner.suffix_within _ _
  refine ((blamesOwn_linkForm objects owner position).draft hlabel t).bind fun d => ?_
  refine ((blames_required _ _ _).mono (hlabel d)).bind fun name => ?_
  exact ((blames_required _ _ _).mono (hlabel d)).bind fun target => .ok _

/-- **The links of an object are complained of inside it.** -/
theorem blames_objectLinks (objects : List String) (source : Nat) (object : ObjectOutline) :
    Blames (ownerLabel object.name) (objectLinks objects source object) := by
  rw [objectLinks]
  cases object.links with
  | none => exact .ok []
  | some raw =>
    refine (blames_items raw _ "links").bind fun ts => .eachAfter (fun done t i => ?_) ts
    exact (blames_link objects source _ t i).bind fun l => .ite_error rfl l

/-! ### Indexes -/

theorem blames_keyReference (scope : KeyScope) (kind : KeyKind) (raw : Tree) (entity : Label) :
    Blames entity (keyReference scope kind raw entity) :=
  (blames_text raw entity kind.text).bind fun _ => .orError rfl

theorem blames_indexKey (scope : KeyScope) (index : Label) (t : Tree) (position : Nat) :
    Blames index (indexKey scope index t position) := by
  let entity := index.within .key (.numbered position)
  have hform : (keyForm scope entity).BlamesOwn := fun _ _ _ _ => blames_keyReference _ _ _ _
  refine (hform.draft (fun _ => List.suffix_rfl) t).of_within.bind fun d => ?_
  exact (blames_required entity _ _).of_within.bind fun reference => .ok _

theorem blames_indexKeys (scope : KeyScope) (raw : Tree) (index : Label) :
    Blames index (indexKeys scope raw index) := by
  refine (blames_items raw index "keys").bind fun ts => ?_
  exact (Blames.each (fun t i => blames_indexKey scope index t i) ts).bind fun keys => .ok _

theorem blamesOwn_indexForm (scope : KeyScope) (owner : Label) (position : Nat) :
    (indexForm scope owner position).BlamesOwn := by
  intro d key s raw
  cases s with
  | name => exact blames_identifier _ _ _
  | unique => exact blames_boolean _ _ _
  | keys => exact blames_indexKeys _ _ _

theorem blames_index (scope : KeyScope) (owner : Label) (t : Tree) (position : Nat) :
    Blames owner (index scope owner t position) := by
  have hlabel : ∀ d, owner <:+ (indexForm scope owner position).label d :=
    fun d => owner.suffix_within _ _
  refine ((blamesOwn_indexForm scope owner position).draft hlabel t).bind fun d => ?_
  refine ((blames_required _ _ _).mono (hlabel d)).bind fun name => ?_
  exact ((blames_required _ _ _).mono (hlabel d)).bind fun keys => .ok _

/-- **The indexes of an object are complained of inside it.** -/
theorem blames_objectIndexes (options : LoadOptions) (object : ObjectOutline) (links : List Link)
    (position : Nat) :
    Blames (ownerLabel object.name) (objectIndexes options object links position) := by
  rw [objectIndexes]
  cases object.indexes with
  | none => exact .ok []
  | some raw =>
    refine (blames_items raw _ "indexes").bind fun ts => .eachAfter (fun done t i => ?_) ts
    exact (blames_index _ _ t i).bind fun x => .ite_error rfl x

/-! ### Objects -/

theorem blamesOwn_objectForm (types : List DataType) (position : Nat) :
    (objectForm types position).BlamesOwn := by
  intro d key s raw
  cases s with
  | name => exact blames_identifier _ _ _
  | properties => exact blames_properties _ _ _
  | attributes => exact blames_attributes _ _
  | links => exact .ok raw
  | indexes => exact .ok raw

/-- **An object is refused for itself or something inside it**, and is called as it can be called
after the entries that have been read. -/
theorem objectOutline_eq_error {types : List DataType} {t : Tree} {position : Nat} {e : LoadError}
    (h : objectOutline types t position = .error e) :
    ∃ d : (objectForm types position).Draft,
      (objectForm types position).enterAll ((objectForm types position).entered t) = .ok d ∧
        e.IsWithin (objectLabel position (d .name)) := by
  rcases bind_eq_error_iff.mp h with hdraft | ⟨d, hdraft, hmissing⟩
  · exact (blamesOwn_objectForm types position).draft_eq_error hdraft
  · refine ⟨d, ?_, ?_⟩
    · cases t with
      | mapping entries =>
        have hall : (objectForm types position).entered (.mapping entries) = entries :=
          Form.enteredFrom_of_ok hdraft
        rw [hall]
        exact hdraft
      | _ => exact nomatch hdraft
    · -- All entries have been read, and a field without a default is missing.
      refine Blames.bind (blames_required _ _ _) (fun name => ?_) e hmissing
      exact (blames_required _ _ _).bind fun properties => .ok _

end Load

end Blueprint
