import Blueprint.Tree.Feed
import Mathlib.Data.List.Basic

/-!
# What is taken of an offer, and the first fault

A reading of an offer stops at its first fault, and which one that is depends on the order in
which the reading goes. To say it without running the reading, the order is written down: the
steps of a reading, `Blueprint.Feed.visits`, are the offers that are met, depth first and from left
to right, and for each entry of a mapping a further step in which its key is judged. That step
stands behind the steps of the value, so a fault inside a value, however deep, comes before the
complaint about its own key. A step is at fault for a reason of its own, whatever stands before
and after it (`Blueprint.Feed.Visit.fault?`).

A reading then comes to what its steps come to (`Blueprint.Feed.toTree_eq`): the fault of the
first step that has one, or, when none has, the tree that the offer describes,
`Blueprint.Feed.plain`. The offers that are taken are those in which nothing *occurs* that a tree
cannot hold (`Blueprint.Feed.IsSupported`). Where it would occur does not matter to that, and an
offer may occur in a key as well as in a value.
-/

namespace Blueprint

namespace Feed

/-! ### What an offer describes -/

/-- What an offer comes to when optional values are opened: an absent one is null. -/
def opened : Feed → Feed
  | .missing => .null
  | .present f => f.opened
  | f => f

/-- **The text of a key**: that of the scalar it opens to. -/
def keyText (f : Feed) : String :=
  match f.opened with
  | .string s => s
  | .boolean b => if b then "true" else "false"
  | .integer n h => (Number.integer n h).text
  | .double (.finite x) => (Number.double x).text
  | _ => ""

variable {entries : List (Feed × Feed)} {entry : Feed × Feed}

theorem sizeOf_key_lt (h : entry ∈ entries) : sizeOf entry.1 < 1 + sizeOf entries := by
  have hentry := List.sizeOf_lt_of_mem h
  rw [Prod.mk.sizeOf_spec] at hentry
  omega

theorem sizeOf_value_lt (h : entry ∈ entries) : sizeOf entry.2 < 1 + sizeOf entries := by
  have hentry := List.sizeOf_lt_of_mem h
  rw [Prod.mk.sizeOf_spec] at hentry
  omega

/-- **The tree that an offer describes**, item by item and entry by entry. What no tree can hold
is left null. -/
def plain : Feed → Tree
  | .boolean b => .boolean b
  | .integer n h => .number (.integer n h)
  | .double (.finite x) => .number (.double x)
  | .string s => .string s
  | .present f => f.plain
  | .sequence items => .sequence (items.map plain)
  | .mapping entries => .mapping (entries.map fun entry => (entry.1.keyText, entry.2.plain))
  | _ => .null
termination_by f => sizeOf f
decreasing_by
  · simp
  · have := List.sizeOf_lt_of_mem ‹_ ∈ items›
    simp only [sequence.sizeOf_spec]
    omega
  · simpa using sizeOf_value_lt ‹_ ∈ entries›

/-! ### Visits -/

/-- **A step of a reading**: an offer is met, or what has been read as a key is judged. -/
inductive Visit where
  | offer (f : Feed)
  | key (f : Feed)

/-- **The steps of a whole reading**, in order. An offer is met before what is inside it; of an
entry the key is read first, then the value, and then the key is judged. -/
def visits : Feed → List Visit
  | .present f => .offer (.present f) :: f.visits
  | .sequence items => .offer (.sequence items) :: items.flatMap visits
  | .mapping entries =>
    .offer (.mapping entries) ::
      entries.flatMap fun entry => entry.1.visits ++ entry.2.visits ++ [.key entry.1]
  | f => [.offer f]
termination_by f => sizeOf f
decreasing_by
  · simp
  · have := List.sizeOf_lt_of_mem ‹_ ∈ items›
    simp only [sequence.sizeOf_spec]
    omega
  · simpa using sizeOf_key_lt ‹_ ∈ entries›
  · simpa using sizeOf_value_lt ‹_ ∈ entries›

/-- Why an offer itself is refused, whatever is inside it. -/
def fault? : Feed → Option FeedError
  | .wideInteger n => some (.wideInteger n)
  | .wideNatural n => some (.wideNatural n)
  | .bytes _ => some .bytes
  | .choice => some .choice
  | .wrapped => some .wrapped
  | .double (.infinite negative) => some (.notFinite (if negative then "-inf" else "inf"))
  | .double .notANumber => some (.notFinite "NaN")
  | _ => none

/-- Why an offer is refused as a key, when it could be read. -/
def keyFault? (f : Feed) : Option FeedError :=
  match f.opened with
  | .null => some (.keyShape "null")
  | .sequence _ => some (.keyShape "sequence")
  | .mapping _ => some (.keyShape "mapping")
  | _ => none

/-- A key is not complained of exactly when it opens to a scalar other than null. -/
theorem keyFault?_eq_none_iff {k : Feed} :
    k.keyFault? = none ↔ k.opened ≠ .null ∧ (∀ items, k.opened ≠ .sequence items) ∧
      ∀ inner, k.opened ≠ .mapping inner := by
  rw [keyFault?]
  cases k.opened <;> simp

/-- **Why a step is at fault**: its offer is refused, or what was read as a key is. -/
def Visit.fault? : Visit → Option FeedError
  | .offer f => f.fault?
  | .key f => f.keyFault?

/-- **The first fault** of some steps: the one of a step before which there is none. -/
def FirstFault (steps : List Visit) (e : FeedError) : Prop :=
  ∃ before visit after, steps = before ++ visit :: after ∧
    (∀ earlier ∈ before, earlier.fault? = none) ∧ visit.fault? = some e

/-! ### Outcomes of some steps -/

section Settle

variable {α β : Type} {steps more : List Visit} {a b : α} {e : FeedError}

/-- What some steps come to: the first fault, or the value if there is none. -/
def settle (steps : List Visit) (a : α) : Except FeedError α :=
  match steps.findSome? Visit.fault? with
  | some e => .error e
  | none => .ok a

theorem settle_append :
    settle (steps ++ more) a = settle steps () >>= fun _ => settle more a := by
  rw [settle, settle, List.findSome?_append]
  cases steps.findSome? Visit.fault? <;> rfl

theorem settle_map (f : α → β) : (settle steps a).map f = settle steps (f a) := by
  rw [settle, settle]
  cases steps.findSome? Visit.fault? <;> rfl

theorem settle_eq_ok_iff :
    settle steps a = .ok b ↔ (∀ visit ∈ steps, visit.fault? = none) ∧ b = a := by
  rw [← List.findSome?_eq_none_iff, settle]
  cases steps.findSome? Visit.fault? <;> simp [eq_comm]

theorem settle_eq_error_iff : settle steps a = .error e ↔ FirstFault steps e := by
  have hfirst : settle steps a = .error e ↔ steps.findSome? Visit.fault? = some e := by
    rw [settle]
    cases steps.findSome? Visit.fault? <;> simp
  rw [hfirst, List.findSome?_eq_some_iff]
  constructor
  · rintro ⟨before, visit, after, hsteps, hfault, hbefore⟩
    exact ⟨before, visit, after, hsteps, hbefore, hfault⟩
  · rintro ⟨before, visit, after, hsteps, hbefore, hfault⟩
    exact ⟨before, visit, after, hsteps, hfault, hbefore⟩

end Settle

/-! ### A reading settles its steps -/

variable {f g k : Feed} {items : List Feed} {e : FeedError}

theorem settle_offer {α : Type} {steps : List Visit} {a : α} (h : f.fault? = none) :
    settle (.offer f :: steps) a = settle steps a := by
  rw [settle, settle, List.findSome?_cons]
  simp only [Visit.fault?, h]

theorem offer_mem_visits_self (f : Feed) : .offer f ∈ f.visits := by
  cases f <;> simp [visits]

/-- Nothing is left to open. -/
theorem opened_ne : k.opened ≠ .missing ∧ ∀ f, k.opened ≠ .present f := by
  induction k using opened.induct with
  | case1 => exact ⟨Feed.noConfusion, fun _ => Feed.noConfusion⟩
  | case2 f ih => exact ih
  | case3 f hmissing hpresent =>
    rw [opened] <;> try assumption
    exact ⟨hmissing, hpresent⟩

/-- An optional value is the tree of what it opens to. -/
theorem plain_opened (k : Feed) : k.opened.plain = k.plain := by
  induction k using opened.induct with
  | case1 => rw [plain.eq_def, plain.eq_def]; rfl
  | case2 f ih =>
    rw [plain]
    exact ih
  | case3 f => rw [opened] <;> assumption

/-- What an offer opens to is met as well, unless it is absent. -/
theorem fault?_opened (hread : ∀ visit ∈ k.visits, visit.fault? = none) :
    k.opened.fault? = none := by
  induction k using opened.induct with
  | case1 => rfl
  | case2 f ih =>
    rw [visits] at hread
    exact ih (List.forall_mem_cons.1 hread).2
  | case3 f =>
    rw [opened] <;> try assumption
    exact hread _ (offer_mem_visits_self f)

/-- A key that is a scalar is read to a tree with its text. -/
theorem keyText?_plain (hread : ∀ visit ∈ k.visits, visit.fault? = none)
    (hkey : k.keyFault? = none) : k.plain.keyText? = some k.keyText := by
  have hfault := fault?_opened hread
  obtain ⟨hmissing, hpresent⟩ := opened_ne (k := k)
  rw [keyFault?] at hkey
  rw [← plain_opened, keyText]
  cases hopened : k.opened with
  | boolean | integer | string => rw [plain]; rfl
  | double x =>
    cases x with
    | finite => rw [plain]; rfl
    | infinite | notANumber => exact nomatch hopened ▸ hfault
  | wideInteger | wideNatural | bytes | choice | wrapped => exact nomatch hopened ▸ hfault
  | null | sequence | mapping => exact nomatch hopened ▸ hkey
  | missing => exact absurd hopened hmissing
  | present f => exact absurd hopened (hpresent f)

/-- Another key is read to a tree without a text, of the shape that is complained of. -/
theorem keyText?_plain_of_keyFault? (hkey : k.keyFault? = some e) :
    k.plain.keyText? = none ∧ e = .keyShape k.plain.shape := by
  rw [keyFault?] at hkey
  rw [← plain_opened, plain.eq_def]
  cases hopened : k.opened with
  | null | sequence | mapping =>
    rw [hopened] at hkey
    obtain rfl := Option.some.inj hkey
    exact ⟨rfl, rfl⟩
  | boolean | integer | wideInteger | wideNatural | double | string | bytes | missing | present
  | choice | wrapped =>
    exact nomatch hopened ▸ hkey

theorem toItems_eq (h : ∀ item ∈ items, item.toTree = settle item.visits item.plain) :
    toItems items = settle (items.flatMap visits) (items.map plain) := by
  induction items with
  | nil => rfl
  | cons item rest ih =>
    obtain ⟨hitem, hrest⟩ := List.forall_mem_cons.1 h
    rw [toItems, hitem, ih hrest, List.flatMap_cons, settle_append]
    simp only [settle]
    cases item.visits.findSome? Visit.fault? with
    | some e => rfl
    | none => cases (rest.flatMap visits).findSome? Visit.fault? <;> rfl

theorem toEntries_eq
    (hkeys : ∀ entry ∈ entries, entry.1.toTree = settle entry.1.visits entry.1.plain)
    (hvalues : ∀ entry ∈ entries, entry.2.toTree = settle entry.2.visits entry.2.plain) :
    toEntries entries =
      settle (entries.flatMap fun entry => entry.1.visits ++ entry.2.visits ++ [.key entry.1])
        (entries.map fun entry => (entry.1.keyText, entry.2.plain)) := by
  induction entries with
  | nil => rfl
  | cons entry rest ih =>
    obtain ⟨hkey, hkeys'⟩ := List.forall_mem_cons.1 hkeys
    obtain ⟨hvalue, hvalues'⟩ := List.forall_mem_cons.1 hvalues
    obtain ⟨k, v⟩ := entry
    rw [toEntries, hkey, hvalue, ih hkeys' hvalues', List.flatMap_cons, settle_append,
      settle_append, settle_append]
    generalize rest.flatMap (fun entry => entry.1.visits ++ entry.2.visits ++ [.key entry.1]) = more
    simp only [settle, List.findSome?_singleton, Visit.fault?]
    cases hk : k.visits.findSome? Visit.fault? with
    | some e => rfl
    | none =>
      cases v.visits.findSome? Visit.fault? with
      | some e => rfl
      | none =>
        -- The key is judged only now, when both have been read.
        cases hjudged : k.keyFault? with
        | some e =>
          obtain ⟨htext, rfl⟩ := keyText?_plain_of_keyFault? hjudged
          simp [htext, bind, Except.bind]
        | none =>
          have htext := keyText?_plain (List.findSome?_eq_none_iff.1 hk) hjudged
          cases more.findSome? Visit.fault? <;> simp [htext, bind, Except.bind, pure, Except.pure]

/-- **A reading comes to what its steps come to.** -/
theorem toTree_eq (f : Feed) : f.toTree = settle f.visits f.plain := by
  induction f using visits.induct with
  | case1 f ih => rw [toTree, ih, visits, plain, settle_offer rfl]
  | case2 items ih =>
    rw [toTree, toItems_eq ih, settle_map, visits, plain, settle_offer rfl]
  | case3 entries ihkeys ihvalues =>
    rw [toTree, toEntries_eq ihkeys ihvalues, settle_map, visits, plain, settle_offer rfl]
  | case4 f hpresent hsequence hmapping =>
    have hvisits : f.visits = [.offer f] := by rw [visits] <;> assumption
    rw [hvisits, plain.eq_def]
    cases f with
    | null | boolean | integer | string | missing => rfl
    | wideInteger | wideNatural | bytes | choice | wrapped => rfl
    | double x => cases x <;> rfl
    | present f => exact (hpresent f rfl).elim
    | sequence items => exact (hsequence items rfl).elim
    | mapping entries => exact (hmapping entries rfl).elim

/-! ### What occurs in an offer -/

/-- **The offer `g` occurs in an offer**: it is that one, or occurs in what is present, in an
item, or in the key or the value of an entry. -/
inductive Occurs (g : Feed) : Feed → Prop
  | here : Occurs g g
  | present {f : Feed} (h : Occurs g f) : Occurs g (.present f)
  | item {items : List Feed} {item : Feed} (hitem : item ∈ items) (h : Occurs g item) :
    Occurs g (.sequence items)
  | key {entries : List (Feed × Feed)} {entry : Feed × Feed} (hentry : entry ∈ entries)
    (h : Occurs g entry.1) : Occurs g (.mapping entries)
  | value {entries : List (Feed × Feed)} {entry : Feed × Feed} (hentry : entry ∈ entries)
    (h : Occurs g entry.2) : Occurs g (.mapping entries)

/-- **An offer that a tree can hold**: no integer of 128 bits, no bytes, no choice, no wrapper and
no number that is not finite occurs in it, and every key in it opens to a scalar other than
null. -/
structure IsSupported (f : Feed) : Prop where
  noWideInteger : ∀ n, ¬ Occurs (.wideInteger n) f
  noWideNatural : ∀ n, ¬ Occurs (.wideNatural n) f
  noBytes : ∀ s, ¬ Occurs (.bytes s) f
  noChoice : ¬ Occurs .choice f
  noWrapper : ¬ Occurs .wrapped f
  finite : ∀ x, Occurs (.double x) f → ∃ value, x = .finite value
  scalarKeys : ∀ entries, Occurs (.mapping entries) f → ∀ entry ∈ entries,
    entry.1.opened ≠ .null ∧ (∀ items, entry.1.opened ≠ .sequence items) ∧
      ∀ inner, entry.1.opened ≠ .mapping inner

/-- The steps of what occurs are among the steps. -/
theorem Occurs.visits_subset (h : Occurs g f) : g.visits ⊆ f.visits := by
  induction h with
  | here => exact List.Subset.refl _
  | present _ ih =>
    rw [visits]
    exact List.subset_cons_of_subset _ ih
  | item hitem _ ih =>
    rw [visits]
    exact List.subset_cons_of_subset _ fun visit hvisit =>
      List.mem_flatMap.2 ⟨_, hitem, ih hvisit⟩
  | key hentry _ ih =>
    rw [visits]
    refine List.subset_cons_of_subset _ fun visit hvisit => List.mem_flatMap.2 ⟨_, hentry, ?_⟩
    exact List.mem_append_left _ (List.mem_append_left _ (ih hvisit))
  | value hentry _ ih =>
    rw [visits]
    refine List.subset_cons_of_subset _ fun visit hvisit => List.mem_flatMap.2 ⟨_, hentry, ?_⟩
    exact List.mem_append_left _ (List.mem_append_right _ (ih hvisit))

/-- **Nothing else is met or judged** than what occurs and the keys of the mappings that occur. -/
theorem mem_visits {visit : Visit} (h : visit ∈ f.visits) :
    (∃ g, visit = .offer g ∧ Occurs g f) ∨
      ∃ entries, ∃ entry ∈ entries, visit = .key entry.1 ∧ Occurs (.mapping entries) f := by
  induction f using visits.induct with
  | case1 f ih =>
    rw [visits, List.mem_cons] at h
    rcases h with rfl | h
    · exact .inl ⟨_, rfl, .here⟩
    · rcases ih h with ⟨g, rfl, hg⟩ | ⟨entries, entry, hentry, rfl, hoccurs⟩
      · exact .inl ⟨g, rfl, .present hg⟩
      · exact .inr ⟨entries, entry, hentry, rfl, .present hoccurs⟩
  | case2 items ih =>
    rw [visits, List.mem_cons, List.mem_flatMap] at h
    rcases h with rfl | ⟨item, hitem, h⟩
    · exact .inl ⟨_, rfl, .here⟩
    · rcases ih item hitem h with ⟨g, rfl, hg⟩ | ⟨entries, entry, hentry, rfl, hoccurs⟩
      · exact .inl ⟨g, rfl, .item hitem hg⟩
      · exact .inr ⟨entries, entry, hentry, rfl, .item hitem hoccurs⟩
  | case3 entries ihkeys ihvalues =>
    rw [visits, List.mem_cons, List.mem_flatMap] at h
    rcases h with rfl | ⟨entry, hentry, h⟩
    · exact .inl ⟨_, rfl, .here⟩
    · rw [List.mem_append, List.mem_append, List.mem_singleton] at h
      rcases h with (h | h) | rfl
      · rcases ihkeys entry hentry h with ⟨g, rfl, hg⟩ | ⟨inner, e, he, rfl, hoccurs⟩
        · exact .inl ⟨g, rfl, .key hentry hg⟩
        · exact .inr ⟨inner, e, he, rfl, .key hentry hoccurs⟩
      · rcases ihvalues entry hentry h with ⟨g, rfl, hg⟩ | ⟨inner, e, he, rfl, hoccurs⟩
        · exact .inl ⟨g, rfl, .value hentry hg⟩
        · exact .inr ⟨inner, e, he, rfl, .value hentry hoccurs⟩
      · exact .inr ⟨entries, entry, hentry, rfl, .here⟩
  | case4 f hpresent hsequence hmapping =>
    have hvisits : f.visits = [.offer f] := by rw [visits] <;> assumption
    rw [hvisits, List.mem_singleton] at h
    exact .inl ⟨f, h, .here⟩

/-- **No step is at fault exactly when the offer is supported.** -/
theorem forall_fault?_eq_none_iff :
    (∀ visit ∈ f.visits, visit.fault? = none) ↔ f.IsSupported := by
  constructor
  · intro h
    have hoffer {g : Feed} (hg : Occurs g f) : g.fault? = none :=
      h _ (hg.visits_subset (offer_mem_visits_self g))
    exact {
      noWideInteger := fun _ hn => nomatch hoffer hn
      noWideNatural := fun _ hn => nomatch hoffer hn
      noBytes := fun _ hs => nomatch hoffer hs
      noChoice := fun hc => nomatch hoffer hc
      noWrapper := fun hw => nomatch hoffer hw
      finite := fun x hx => by
        cases x with
        | finite value => exact ⟨value, rfl⟩
        | infinite | notANumber => exact nomatch hoffer hx
      scalarKeys := fun entries hentries entry hentry => by
        refine keyFault?_eq_none_iff.1 (h (.key entry.1) (hentries.visits_subset ?_))
        rw [visits]
        exact List.mem_cons_of_mem _ (List.mem_flatMap.2 ⟨entry, hentry, by simp⟩) }
  · intro h visit hvisit
    rcases mem_visits hvisit with ⟨g, rfl, hg⟩ | ⟨entries, entry, hentry, rfl, hoccurs⟩
    · change g.fault? = none
      cases g with
      | wideInteger n => exact absurd hg (h.noWideInteger n)
      | wideNatural n => exact absurd hg (h.noWideNatural n)
      | bytes s => exact absurd hg (h.noBytes s)
      | choice => exact absurd hg h.noChoice
      | wrapped => exact absurd hg h.noWrapper
      | double x =>
        obtain ⟨value, rfl⟩ := h.finite x hg
        rfl
      | null | boolean | integer | string | missing | present | sequence | mapping => rfl
    · exact keyFault?_eq_none_iff.2 (h.scalarKeys entries hoccurs entry hentry)

/-- **What is taken of an offer, and what is complained of.** An offer is taken exactly when it is
supported, and then as the tree that it describes. An offer that is not is refused with the first
fault of its steps. -/
theorem toTree_faithful (f : Feed) :
    (∀ t, f.toTree = .ok t ↔ f.IsSupported ∧ t = f.plain) ∧
    ∀ e, f.toTree = .error e ↔ FirstFault f.visits e := by
  rw [toTree_eq]
  refine ⟨fun t => ?_, fun e => settle_eq_error_iff⟩
  rw [settle_eq_ok_iff, forall_fault?_eq_none_iff]

/-- The bytes inside the value are complained of, and not the key that is null. -/
example :
    (mapping [(.present .missing, .sequence [.string "a", .bytes "b"])]).toTree = .error .bytes :=
  rfl

end Feed

end Blueprint
