import Blueprint.Proofs.Number.Rounding
import Blueprint.Proofs.Project.WellFormed

/-!
# Bounds that are crossed

A property may have a least and a greatest value, and the first must not lie above the second.
Where both are integers below `2^63` this is what is checked. Any other two bounds are rounded
before they are compared, so crossed bounds are refused if they round to different values, and
pass if they round to the same one (`Blueprint.Load.range_checked_up_to_rounding`). No bounds
are refused that are not crossed.

A binary64 value and an integer of at most 53 digits round to themselves, and bounds of these two
kinds are checked exactly (`Blueprint.Number.visiblyAbove_iff`). It takes a longer integer for
crossed bounds to pass: the largest number and the one before it both round to `2^64`, and a
property may have them as its bounds in the wrong order (`Blueprint.Load.crossed_bounds_pass`).
-/

namespace Blueprint

namespace Grammar

/-- **A property with two bounds**, in whichever order they are: everything else is as the
grammar has it. -/
structure IsBoundedProperty (types : List String) (low high : Number) (t : Tree) : Prop where
  fields : IsRecord ["name", "type", "mandatory", "default", "secret", "pattern", "minimum",
    "maximum", "attributes"] t
  name : Requires t "name" IsIdentifier
  type : Requires t "type" (IsOneOf types)
  mandatory : Allows t "mandatory" IsBoolean
  defaultValue : Allows t "default" IsScalar
  secret : Allows t "secret" IsBoolean
  pattern : Allows t "pattern" IsText
  minimum : t.get? "minimum" = some (.number low)
  maximum : t.get? "maximum" = some (.number high)
  attributes : Allows t "attributes" IsAttributes

namespace IsBoundedProperty

variable {types : List String} {low high : Number} {t : Tree}

theorem allows_minimum (h : IsBoundedProperty types low high t) : Allows t "minimum" IsNumber := by
  intro v hv
  obtain rfl := Option.some.inj (h.minimum.symm.trans hv)
  exact ⟨low, rfl⟩

theorem allows_maximum (h : IsBoundedProperty types low high t) : Allows t "maximum" IsNumber := by
  intro v hv
  obtain rfl := Option.some.inj (h.maximum.symm.trans hv)
  exact ⟨high, rfl⟩

/-- All that such a property lacks to be one of the grammar is that its bounds are not crossed. -/
theorem isProperty (h : IsBoundedProperty types low high t) (hrange : low.exceeds high = false) :
    IsProperty types t where
  fields := h.fields
  name := h.name
  type := h.type
  mandatory := h.mandatory
  defaultValue := h.defaultValue
  secret := h.secret
  pattern := h.pattern
  minimum := h.allows_minimum
  maximum := h.allows_maximum
  range := by
    intro l r hl hr
    rw [Tree.numberAt?, h.minimum] at hl
    rw [Tree.numberAt?, h.maximum] at hr
    obtain rfl := Option.some.inj hl
    obtain rfl := Option.some.inj hr
    exact hrange
  attributes := h.attributes

end IsBoundedProperty

end Grammar

namespace Load

open Grammar

variable {types : List DataType} {object : Label} {t : Tree} {position : Nat} {low high : Number}

/-- **A property with two bounds is read** up to the bounds. -/
theorem draft_of_bounded (object : Label) (position : Nat)
    (h : IsBoundedProperty (types.map (·.name)) low high t) :
    ∃ d, (propertyForm types object position).draft t = .ok d ∧
      d PropertySlot.name = some t.declaredName ∧ (∃ i, d PropertySlot.type = some i) ∧
      d PropertySlot.minimum = some low ∧ d PropertySlot.maximum = some high := by
  let law := propertyLaw types object position
  obtain ⟨name, hname, hnames⟩ := h.name
  obtain ⟨type, htype, htypes⟩ := h.type
  refine ⟨law.draftOf t, (law.draft_yields t).eq_ok ⟨h.fields, fun s => ?_⟩, ?_, ?_, ?_, ?_⟩
  · cases s with
    | name => exact (requires_iff.mp h.name).2
    | type => exact (requires_iff.mp h.type).2
    | mandatory => exact h.mandatory
    | defaultValue => exact h.defaultValue
    | secret => exact h.secret
    | pattern => exact h.pattern
    | minimum => exact h.allows_minimum
    | maximum => exact h.allows_maximum
    | attributes => exact h.attributes
  · have hfield : t.declaredName = name.trimmed := by
      rw [Tree.declaredName, Tree.textAt, Tree.field, hname]
      rfl
    rw [hfield]
    exact congrArg (Option.map Tree.trimmed) hname
  · exact Option.isSome_iff_exists.mp (Option.isSome_map.trans (htype ▸ rfl))
  · exact congrArg (Option.map fun v => (Tree.asNumber? v).getD anyNumber) h.minimum
  · exact congrArg (Option.map fun v => (Tree.asNumber? v).getD anyNumber) h.maximum

/-- **Crossed bounds are refused**, with the bounds and the name of the property. -/
theorem property_of_crossed (h : IsBoundedProperty (types.map (·.name)) low high t)
    (hcrossed : low.exceeds high = true) : property types object t position =
      .error (.rangeViolation (propertyLabel object position (some t.declaredName)) low high) := by
  obtain ⟨d, hdraft, hname, ⟨i, htype⟩, hlow, hhigh⟩ := draft_of_bounded object position h
  have hlabel : (propertyForm types object position).label d =
      propertyLabel object position (some t.declaredName) :=
    congrArg (propertyLabel object position) hname
  simp [property, hdraft, hlabel, hname, htype, hlow, hhigh, required, orError, crossed, hcrossed,
    bind, Except.bind]

/-- **How two bounds are checked.** A property that has them is refused for them if the least
value visibly lies above the greatest one, and read if not. So the check is exact unless rounding
hides that the bounds are crossed, and if a loaded property has them, they are not crossed, or
they round to the same value. -/
theorem range_checked_up_to_rounding (low high : Number) :
    (∀ (types : List DataType) (object : Label) (t : Tree) (position : Nat),
      IsBoundedProperty (types.map (·.name)) low high t →
        (property types object t position =
            .error (.rangeViolation (propertyLabel object position (some t.declaredName)) low high) ↔
          low.VisiblyAbove high) ∧
        (property types object t position =
            .ok (Reading.property (types.map (·.name)) false t) ↔ ¬low.VisiblyAbove high) ∧
        ((property types object t position = .error (.rangeViolation
            (propertyLabel object position (some t.declaredName)) low high) ↔
          high.value < low.value) ↔ (high.value < low.value → low.VisiblyAbove high))) ∧
    ∀ (options : LoadOptions) (d : Tree) (p : Project), load options d = .ok p →
      ∀ o ∈ p.objects, ∀ q ∈ o.properties, q.minimum = some low → q.maximum = some high →
        low.value ≤ high.value ∨ ¬(low.IsSigned ∧ high.IsSigned) ∧ low.nearest = high.nearest := by
  refine ⟨fun types object t position h => ?_, fun options d p h => ?_⟩
  · by_cases hexceeds : low.exceeds high = true
    · have habove := Number.exceeds_iff.mp hexceeds
      rw [property_of_crossed h hexceeds]
      simp [habove, habove.1]
    · have hnot := mt Number.exceeds_iff.mpr hexceeds
      have hproperty := h.isProperty (Bool.not_eq_true _ ▸ hexceeds)
      rw [(property_yields types object t position).eq_ok hproperty]
      simp [hnot]
  · intro o ho q hq hlow hhigh
    obtain ⟨i, hi⟩ := List.mem_iff_getElem?.mp ho
    have hrange := (((wellFormed_of_load h).objects i o hi).properties q hq).range low high hlow hhigh
    have hnot : ¬low.exceeds high = true := by simp [hrange]
    rw [Number.exceeds_iff, Number.VisiblyAbove, not_and_or, not_lt, not_or, not_not] at hnot
    exact hnot

/-! ### Bounds that pass -/

/-- A property of two bounds. -/
def sizeProperty (low high : Number) : Tree := .mapping [
  ("name", .string "size"), ("type", .string "integer"), ("minimum", .number low),
  ("maximum", .number high)]

theorem isBoundedProperty_size (low high : Number) :
    IsBoundedProperty (builtinDataTypes.map (·.name)) low high (sizeProperty low high) where
  fields := ⟨_, rfl, by simp, by simp⟩
  name := ⟨_, rfl, ⟨_, rfl, by decide +kernel⟩, by decide +kernel⟩
  type := ⟨_, rfl, ⟨_, rfl, by decide +kernel⟩, by decide +kernel⟩
  mandatory := nofun
  defaultValue := nofun
  secret := nofun
  pattern := nofun
  minimum := rfl
  maximum := rfl
  attributes := nofun

/-- The largest number. It rounds to `2^64`. -/
def largest : Number := .integer 0xffffffffffffffff (by decide)

/-- The number before the largest one. It rounds to `2^64` as well. -/
def nextToLargest : Number := .integer 0xfffffffffffffffe (by decide)

/-- A definition with a property of crossed bounds. -/
def crossedBounds : Tree := .mapping [
  ("name", .string "Store"),
  ("objects", .sequence [.mapping [("name", .string "Block"),
    ("properties", .sequence [sizeProperty largest nextToLargest])]]),
  ("files", .sequence [.mapping [("scope", .string "project"), ("input", .string "a.hbs"),
    ("output", .string "a.txt")]])]

theorem load_crossedBounds :
    load .default crossedBounds = .ok (Reading.project crossedBounds) := by
  decide +kernel

theorem value_nextToLargest_lt : nextToLargest.value < largest.value := by
  norm_num [Number.value, nextToLargest, largest]

/-- The label of the object that has the property. -/
def blockLabel : Label := .root .object (.named "Block")

/-- **Crossed bounds pass**: the property is read, and the project loads with it. -/
theorem crossed_bounds_pass : nextToLargest.value < largest.value ∧
    IsBoundedProperty (builtinDataTypes.map (·.name)) largest nextToLargest
      (sizeProperty largest nextToLargest) ∧
    (∃ q, property builtinDataTypes blockLabel (sizeProperty largest nextToLargest) 1 = .ok q) ∧
    ∃ p, load .default crossedBounds = .ok p ∧ ∃ o ∈ p.objects, ∃ q ∈ o.properties,
      q.minimum = some largest ∧ q.maximum = some nextToLargest := by
  have hexceeds : largest.exceeds nextToLargest = false := by decide +kernel
  have hbounded := isBoundedProperty_size largest nextToLargest
  exact ⟨value_nextToLargest_lt, hbounded,
    ⟨_, (property_yields builtinDataTypes _ _ 1).eq_ok (hbounded.isProperty hexceeds)⟩,
    _, load_crossedBounds, _, List.mem_cons_self, _, List.mem_cons_self, rfl, rfl⟩

/-- Bounds that are seen to be crossed, bounds that are not, and a project that has these. -/
theorem range_checked_crossedBounds :
    property builtinDataTypes blockLabel (sizeProperty (wordNumber 10) (wordNumber 2)) 1 =
      .error (.rangeViolation (propertyLabel blockLabel 1 (some "size")) (wordNumber 10)
        (wordNumber 2)) ∧
    ¬largest.VisiblyAbove nextToLargest ∧ largest.nearest = nextToLargest.nearest := by
  have hsmall := isBoundedProperty_size (wordNumber 10) (wordNumber 2)
  have hlarge := isBoundedProperty_size largest nextToLargest
  have habove : (wordNumber 10).VisiblyAbove (wordNumber 2) :=
    Number.exceeds_iff.mp (by decide +kernel)
  have hread := (property_yields builtinDataTypes blockLabel _ 1).eq_ok
    (hlarge.isProperty (by decide +kernel))
  have hloaded := (range_checked_up_to_rounding largest nextToLargest).2 .default crossedBounds _
    load_crossedBounds _ List.mem_cons_self _ List.mem_cons_self rfl rfl
  exact ⟨((range_checked_up_to_rounding _ _).1 _ _ _ 1 hsmall).1.mpr habove,
    ((range_checked_up_to_rounding _ _).1 _ _ _ 1 hlarge).2.1.mp hread,
    (hloaded.resolve_left value_nextToLargest_lt.not_ge).2⟩

end Load

end Blueprint
