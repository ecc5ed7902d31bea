import Blueprint.Proofs.Load.Fields

/-!
# Data types, as the grammar has them

The types that a definition declares are read one after another, each against the types
that exist already, the built-in ones among them. Taken together
(`Blueprint.Load.dataTypes_yields`), each of them has to be a type and all names, declared
and built in, have to be distinct.
-/

namespace Blueprint

namespace Load

open Grammar

/-! ### Values -/

/-- The law of a value written as a mapping. -/
def valueLaw (entity : Label) : (valueForm entity).Law where
  slots := [()]
  accepts _ _ := IsText
  value _ _ := Tree.trimmed
  slot?_eq_some_iff := by
    intro k s
    constructor
    · intro h
      simp only [valueForm] at h
      split at h
      · exact Eq.symm ‹k = "value"›
      · exact nomatch h
    · rintro rfl
      rfl
  mem_slots _ := List.mem_cons_self
  read_yields _ _ raw := text_yields raw entity "value"

/-- A value of an enumeration, in either notation. -/
theorem enumerationValue_yields (t : Tree) (entity : Label) :
    Yields (enumerationValue t entity) (IsEnumerationValue t) (Reading.enumerationValue t) := by
  by_cases hmapping : ∃ entries, t = .mapping entries
  · obtain ⟨entries, rfl⟩ := hmapping
    let law := valueLaw entity
    refine ((law.draft_yields (.mapping entries)).bind fun _ =>
      field_yields "value" Tree.trimmed).congr ?_ fun _ => rfl
    constructor
    · rintro ⟨⟨hfields, hvalues⟩, hvalue⟩
      exact .inr ⟨hfields, requires_iff.mpr ⟨hvalue, hvalues ()⟩⟩
    · rintro (⟨_, htext, _⟩ | ⟨hfields, hvalue⟩)
      · exact nomatch htext
      · obtain ⟨hvalue, hvalues⟩ := requires_iff.mp hvalue
        exact ⟨⟨hfields, fun _ => hvalues⟩, hvalue⟩
  · have hother : ∀ entries, t = .mapping entries → False := fun entries h => hmapping ⟨entries, h⟩
    rw [enumerationValue.eq_2 _ _ hother, Reading.enumerationValue.eq_2 _ hother]
    refine (text_yields t entity "value").congr ⟨.inl, ?_⟩ fun _ => rfl
    rintro (htext | ⟨⟨entries, h, _⟩, _⟩)
    · exact htext
    · exact absurd ⟨entries, h⟩ hmapping

/-- The next value of an enumeration, which none before it may be. -/
theorem nextValue_yields (owner : Label) (done : List String) (t : Tree) (position : Nat) :
    Yields (nextValue owner done t position)
      (IsEnumerationValue t ∧ id (Reading.enumerationValue t) ∉ done.map id)
      (Reading.enumerationValue t) := by
  rw [List.map_id, id]
  exact unless_yields (enumerationValue_yields t _) List.contains_iff_mem

/-- What a list of values has to be. -/
def AreEnumerationValues (t : Tree) : Prop :=
  IsSequenceOf IsEnumerationValue t ∧ (t.items.map Reading.enumerationValue).Nodup

/-- **The values of an enumeration**: all of them values, and all different. -/
theorem enumerationValues_yields (t : Tree) (owner : Label) :
    Yields (enumerationValues t owner) (AreEnumerationValues t)
      (t.items.map Reading.enumerationValue) := by
  refine (sequence_yields t owner "values"
    (eachAfter_distinct_yields id (nextValue_yields owner) t.items)).congr ?_ fun _ => rfl
  rw [List.map_id, AreEnumerationValues]

/-! ### Types -/

theorem dataTypeKind_yields (t : Tree) (entity : Label) :
    Yields (dataTypeKind t entity) (IsOneOf ["enumeration"] t) .enumeration := by
  refine text_bind_yields t entity "type" ?_
  rw [List.mem_singleton]
  by_cases h : t.trimmed = "enumeration"
  · rw [if_pos h]
    exact (Yields.ok _).congr (iff_of_true trivial h) fun _ => rfl
  · rw [if_neg h]
    exact Yields.error _ h

theorem DataTypeSlot.mem_all (s : DataTypeSlot) : s ∈ [DataTypeSlot.name, .type, .values] := by
  cases s <;> decide

/-- What the slots of a type take. -/
def DataTypeSlot.Accepts : DataTypeSlot → Tree → Prop
  | .name => IsIdentifier
  | .type => IsOneOf ["enumeration"]
  | .values => AreEnumerationValues

/-- What the slots of a type make of it. -/
def DataTypeSlot.read : (s : DataTypeSlot) → Tree → s.Value
  | .name => Tree.trimmed
  | .type => fun _ => .enumeration
  | .values => fun t => t.items.map Reading.enumerationValue

/-- The law of the declaration of a type. -/
def dataTypeLaw (position : Nat) : (dataTypeForm position).Law where
  slots := [.name, .type, .values]
  accepts _ := DataTypeSlot.Accepts
  value _ := DataTypeSlot.read
  slot?_eq_some_iff := by
    intro k s
    constructor
    · intro h
      simp only [dataTypeForm] at h
      split at h <;> cases h <;> rfl
    · rintro rfl
      cases s <;> rfl
  mem_slots := DataTypeSlot.mem_all
  read_yields before s raw := by
    cases s with
    | name => exact identifier_yields _ _ _
    | type => exact dataTypeKind_yields _ _
    | values => exact enumerationValues_yields _ _

/-- A name that no type has yet. -/
theorem taken_yields {existing : List DataType} {name : String} {e : DataType → LoadError}
    {v : DataType} :
    Yields (match existing.find? fun t => t.name == name with
      | some previous => .error (e previous)
      | none => pure v) (name ∉ existing.map (·.name)) v := by
  cases hfind : existing.find? fun t => t.name == name with
  | some previous =>
    have hname : previous.name = name :=
      eq_of_beq (List.find?_some (p := fun t : DataType => t.name == name) hfind)
    have hmem : previous ∈ existing := List.mem_of_find?_eq_some hfind
    exact Yields.error _ fun h => h (List.mem_map.mpr ⟨previous, hmem, hname⟩)
  | none =>
    refine (Yields.pure v).congr (iff_of_true trivial ?_) fun _ => rfl
    intro h
    obtain ⟨t, ht, hname⟩ := List.mem_map.mp h
    exact List.find?_eq_none.mp hfind t ht (beq_iff_eq.mpr hname)

/-- **The declaration of a type**, whose name must be a new one. -/
theorem dataType_yields (existing : List DataType) (t : Tree) (position : Nat) :
    Yields (dataType existing t position)
      (IsDataType t ∧ t.declaredName ∉ existing.map (·.name)) (Reading.dataType t) := by
  let law := dataTypeLaw position
  have hlist : Requires t "values" (IsNonemptySequenceOf IsEnumerationValue) ↔ _ :=
    requires_list_iff fun v => List.map_eq_nil_iff (f := Reading.enumerationValue) (l := v.items)
  have hdistinct : Allows t "values" AreEnumerationValues ↔ _ :=
    allows_and_iff.trans (and_congr_right fun _ => allows_distinct_iff)
  refine ((law.draft_yields t).bind fun _ =>
    (field_yields "name" Tree.trimmed).bind fun _ =>
    (field_yields "type" fun _ => DataTypeKind.enumeration).bind fun _ =>
    (list_field_yields "values" fun v => v.items.map Reading.enumerationValue).bind fun _ =>
    taken_yields (v := Reading.dataType t)).congr ?_ fun _ => rfl
  constructor
  · rintro ⟨⟨hfields, hslots⟩, hname, htype, hvalues, hnew⟩
    obtain ⟨hsequence, hnames⟩ := hdistinct.mp (hslots .values)
    exact ⟨⟨hfields, requires_iff.mpr ⟨hname, hslots .name⟩,
      requires_iff.mpr ⟨htype, hslots .type⟩, hlist.mpr ⟨hvalues, hsequence⟩, hnames⟩, hnew⟩
  · rintro ⟨⟨hfields, hname, htype, hvalues, hnames⟩, hnew⟩
    obtain ⟨hname, hidentifier⟩ := requires_iff.mp hname
    obtain ⟨htype, hkind⟩ := requires_iff.mp htype
    obtain ⟨hvalues, hsequence⟩ := hlist.mp hvalues
    have hall : Allows t "values" AreEnumerationValues := hdistinct.mpr ⟨hsequence, hnames⟩
    exact ⟨⟨hfields, fun s => by cases s <;> assumption⟩, hname, htype, hvalues, hnew⟩

/-- **The declared types**, whose names and those of the built-in types are distinct. -/
theorem dataTypes_yields (t : Tree) (owner : Label) :
    Yields (dataTypes t owner)
      (IsSequenceOf IsDataType t ∧ (Reading.builtinNames ++ t.items.map Tree.declaredName).Nodup)
      (t.items.map Reading.dataType) := by
  have hbuiltin : Reading.builtinNames.Nodup := by decide
  have hstep : ∀ done u i, Yields (dataType (builtinDataTypes ++ done) u i)
      (IsDataType u ∧ (True → (Reading.dataType u).name ∉
        Reading.builtinNames ++ done.map (·.name))) (Reading.dataType u) := by
    intro done u i
    rw [true_imp_iff, Reading.builtinNames, ← List.map_append]
    exact dataType_yields _ u i
  refine sequence_yields t owner "datatypes"
    ((eachAfter_yields hbuiltin (·.name) hstep t.items).congr ?_ fun _ => rfl)
  rw [true_imp_iff, List.map_map]
  rfl

end Load

end Blueprint
