import Blueprint.Proofs.Load.Attributes

/-!
# Properties, as the grammar has them

A property is read against the types that exist, by name, and refused when its bounds are
crossed. The properties of an object are read one by one and the last one is marked
(`Blueprint.Load.properties_yields`); nothing is asked of their names.
-/

namespace Blueprint

namespace Load

open Grammar

/-! ### Names as positions -/

/-- **The first item of a name**: there is one when the name is among theirs, and its
position is the first one of the name. -/
theorem findIdx?_eq_some_iff_idxOf {α : Type} {xs : List α} {key : α → String} {name : String}
    {i : Nat} :
    (xs.findIdx? fun x => key x == name) = some i ↔
      name ∈ xs.map key ∧ (xs.map key).idxOf name = i := by
  have hfindIdx : (xs.map key).idxOf name = xs.findIdx fun x => key x == name := by
    rw [List.idxOf, List.findIdx_map]
    rfl
  rw [List.findIdx?_eq_some_iff_findIdx_eq, hfindIdx]
  refine and_congr_left fun hi => ?_
  rw [← hi, List.findIdx_lt_length, List.mem_map]
  exact exists_congr fun x => and_congr_right fun _ => beq_iff_eq

/-- A name that has to be that of an item. -/
theorem findIdx?_yields {α : Type} (xs : List α) (key : α → String) (name : String)
    (e : LoadError) :
    Yields (orError (xs.findIdx? fun x => key x == name) e) (name ∈ xs.map key)
      ((xs.map key).idxOf name) :=
  orError_yields fun _ => findIdx?_eq_some_iff_idxOf

theorem propertyType_yields (types : List DataType) (t : Tree) (entity : Label) :
    Yields (propertyType types t entity) (IsOneOf (types.map (·.name)) t)
      ((types.map (·.name)).idxOf t.trimmed) :=
  text_bind_yields t entity "type" (findIdx?_yields types (·.name) t.trimmed _)

/-! ### Slots -/

theorem PropertySlot.mem_all (s : PropertySlot) : s ∈ [PropertySlot.name, .type, .mandatory,
    .defaultValue, .secret, .pattern, .minimum, .maximum, .attributes] := by
  cases s <;> decide

/-- What the slots of a property take. -/
def PropertySlot.Accepts (types : List String) : PropertySlot → Tree → Prop
  | .name => IsIdentifier
  | .type => IsOneOf types
  | .mandatory => IsBoolean
  | .defaultValue => IsScalar
  | .secret => IsBoolean
  | .pattern => IsText
  | .minimum => IsNumber
  | .maximum => IsNumber
  | .attributes => IsAttributes

/-- A number to be of no importance. -/
def anyNumber : Number := .integer 0 ⟨by decide, by decide⟩

/-- What the slots of a property make of it. -/
def PropertySlot.read (types : List String) : (s : PropertySlot) → Tree → s.Value
  | .name => Tree.trimmed
  | .type => fun t => types.idxOf t.trimmed
  | .mandatory => fun t => t.asBoolean?.getD false
  | .defaultValue => fun t => (Scalar.ofTree? t).getD (.boolean false)
  | .secret => fun t => t.asBoolean?.getD false
  | .pattern => Tree.trimmed
  | .minimum => fun t => t.asNumber?.getD anyNumber
  | .maximum => fun t => t.asNumber?.getD anyNumber
  | .attributes => Reading.attributes

/-- The law of a property. -/
def propertyLaw (types : List DataType) (object : Label) (position : Nat) :
    (propertyForm types object position).Law where
  slots := [.name, .type, .mandatory, .defaultValue, .secret, .pattern, .minimum, .maximum,
    .attributes]
  accepts _ := PropertySlot.Accepts (types.map (·.name))
  value _ := PropertySlot.read (types.map (·.name))
  slot?_eq_some_iff := by
    intro k s
    constructor
    · intro h
      simp only [propertyForm, PropertySlot.ofText?] at h
      split at h <;> cases h <;> rfl
    · rintro rfl
      cases s <;> rfl
  mem_slots := PropertySlot.mem_all
  read_yields before s raw := by
    cases s with
    | name => exact identifier_yields _ _ _
    | type => exact propertyType_yields _ _ _
    | mandatory => exact boolean_yields _ _ _
    | defaultValue => exact scalar_yields _ _ _ _
    | secret => exact boolean_yields _ _ _
    | pattern => exact text_yields _ _ _
    | minimum => exact number_yields _ _ _ _
    | maximum => exact number_yields _ _ _ _
    | attributes => exact attributes_yields _ _

/-- A field that has been read, against looking it up. -/
theorem map_getD_eq_bind {α : Type} {t : Tree} {key : String} {f : Tree → Option α} {z : α}
    (h : Allows t key fun v => (f v).isSome = true) :
    ((t.get? key).map fun v => (f v).getD z) = (t.get? key).bind f := by
  cases hv : t.get? key with
  | none => rfl
  | some v =>
    obtain ⟨a, ha⟩ := Option.isSome_iff_exists.mp (h v hv)
    rw [Option.map_some, Option.bind_some, ha, Option.getD_some]

theorem isSome_asBoolean? {t : Tree} (h : IsBoolean t) : t.asBoolean?.isSome = true := by
  obtain ⟨b, rfl⟩ := h
  rfl

theorem isSome_asNumber? {t : Tree} (h : IsNumber t) : t.asNumber?.isSome = true := by
  obtain ⟨n, rfl⟩ := h
  rfl

/-- A truth value that has been read. -/
theorem map_asBoolean? {t : Tree} {key : String} (h : Allows t key IsBoolean) :
    ((t.get? key).map fun v => v.asBoolean?.getD false) = t.booleanAt? key :=
  map_getD_eq_bind fun v hv => isSome_asBoolean? (h v hv)

/-- A number that has been read. -/
theorem map_asNumber? {t : Tree} {key : String} (h : Allows t key IsNumber) :
    ((t.get? key).map fun v => v.asNumber?.getD anyNumber) = t.numberAt? key :=
  map_getD_eq_bind fun v hv => isSome_asNumber? (h v hv)

/-- A scalar that has been read. -/
theorem map_ofTree? {t : Tree} {key : String} (h : Allows t key IsScalar) :
    ((t.get? key).map fun v => (Scalar.ofTree? v).getD (.boolean false)) = t.scalarAt? key :=
  map_getD_eq_bind fun v hv => (isSome_ofTree?_iff v).mpr (h v hv)

/-! ### Properties -/

/-- Bounds that may not be crossed. -/
theorem crossed_yields {low high : Option Number} {e : Number → Number → LoadError}
    {v : Property} :
    Yields (match crossed low high with
      | some (l, h) => .error (e l h)
      | none => pure v)
      (∀ l h, low = some l → high = some h → l.exceeds h = false) v := by
  have hok : (∀ l h, low = some l → high = some h → l.exceeds h = false) → Yields (pure v)
      (∀ l h, low = some l → high = some h → l.exceeds h = false) v := fun h =>
    (Yields.pure v).congr (iff_of_true trivial h) fun _ => rfl
  -- Nothing is compared unless both bounds are there.
  cases low with
  | none => exact hok fun l h hl => nomatch hl
  | some l =>
    cases high with
    | none => exact hok fun _ h _ hh => nomatch hh
    | some h =>
      rw [crossed]
      by_cases hexceeds : l.exceeds h = true
      · rw [if_pos hexceeds]
        exact Yields.error _ fun hall => nomatch hexceeds.symm.trans (hall l h rfl rfl)
      · rw [if_neg hexceeds]
        refine hok ?_
        rintro _ _ ⟨⟩ ⟨⟩
        exact Bool.not_eq_true _ ▸ hexceeds

/-- **A property**, whose type is one of those that exist. -/
theorem property_yields (types : List DataType) (object : Label) (t : Tree) (position : Nat) :
    Yields (property types object t position) (IsProperty (types.map (·.name)) t)
      (Reading.property (types.map (·.name)) false t) := by
  let law := propertyLaw types object position
  refine ((law.draft_yields t).bind fun _ =>
    (field_yields "name" Tree.trimmed).bind fun _ =>
    (field_yields "type" fun v => (types.map (·.name)).idxOf v.trimmed).bind fun _ =>
    crossed_yields).congr ?_ ?_
  · constructor
    · rintro ⟨⟨hfields, hslots⟩, hname, htype, hrange⟩
      exact ⟨hfields, requires_iff.mpr ⟨hname, hslots .name⟩,
        requires_iff.mpr ⟨htype, hslots .type⟩, hslots .mandatory, hslots .defaultValue,
        hslots .secret, hslots .pattern, hslots .minimum, hslots .maximum,
        fun l h hl hh => hrange l h ((map_asNumber? (hslots .minimum)).trans hl)
          ((map_asNumber? (hslots .maximum)).trans hh),
        hslots .attributes⟩
    · rintro ⟨hfields, hname, htype, hmandatory, hdefault, hsecret, hpattern, hminimum, hmaximum,
        hrange, hattributes⟩
      obtain ⟨hname, hnames⟩ := requires_iff.mp hname
      obtain ⟨htype, htypes⟩ := requires_iff.mp htype
      exact ⟨⟨hfields, fun s => by cases s <;> assumption⟩, hname, htype,
        fun l h hl hh => hrange l h ((map_asNumber? hminimum).symm.trans hl)
          ((map_asNumber? hmaximum).symm.trans hh)⟩
  · intro h
    have hmandatory : law.draftOf t .mandatory = t.booleanAt? "mandatory" :=
      map_asBoolean? h.mandatory
    have hdefault : law.draftOf t .defaultValue = t.scalarAt? "default" :=
      map_ofTree? h.defaultValue
    have hsecret : law.draftOf t .secret = t.booleanAt? "secret" := map_asBoolean? h.secret
    have hminimum : law.draftOf t .minimum = t.numberAt? "minimum" := map_asNumber? h.minimum
    have hmaximum : law.draftOf t .maximum = t.numberAt? "maximum" := map_asNumber? h.maximum
    have hattributes : (law.draftOf t .attributes).getD .empty = Reading.attributesOf t :=
      getD_map_attributes t
    rw [hmandatory, hdefault, hsecret, hminimum, hmaximum, hattributes]
    rfl

/-- **The properties of an object**: all of them properties, and the last one marked. -/
theorem properties_yields (types : List DataType) (t : Tree) (object : Label) :
    Yields (properties types t object) (IsSequenceOf (IsProperty (types.map (·.name))) t)
      (Reading.marked (fun _ => Reading.property (types.map (·.name))) t.items) :=
  sequence_marked_yields t object "properties" (fun _ _ => rfl) (property_yields types object)

end Load

end Blueprint
