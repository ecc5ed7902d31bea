import Blueprint.Proofs.Load.Acceptance

/-!
# The passes do not look ahead

A pass carries the trees that a later pass will read, and does not look into them. So it cannot
matter to it what they are. Two definitions that differ in the links and indexes of their objects
alone go through the first pass alike, and two that differ in the indexes alone go through the
first two alike (`Blueprint.Load.passes_apart`). A fault in a link neither hides a fault of the
first pass nor is reported before it, wherever the two stand in the file.

That both definitions are *accepted* alike could be seen from the grammar. That both are *refused*
alike could not: a definition with two faults is refused for the one that the loader comes to
first, of which the grammar knows nothing. So the two runs are followed side by side, entry by
entry.

| compared | relation |
|---|---|
| two results | `Blueprint.Load.SameOutcome` |
| two fragments | `Blueprint.Tree.SameKeys`, `Blueprint.Tree.SameItems` |
| two drafts of a form | `Blueprint.Form.Draft.Agree` |
| two outlines | `Blueprint.Outline.Agrees` |
-/

namespace Blueprint

namespace Load

/-! ### Two readings side by side -/

/-- **Two readings that end alike**: with the same error, or with related values. -/
inductive SameOutcome {α β : Type} (R : α → β → Prop) :
    Except LoadError α → Except LoadError β → Prop
  | error (e : LoadError) : SameOutcome R (.error e) (.error e)
  | ok {a : α} {b : β} (h : R a b) : SameOutcome R (.ok a) (.ok b)

namespace SameOutcome

variable {α β γ δ : Type} {R : α → β → Prop} {S : γ → δ → Prop}
  {x : Except LoadError α} {y : Except LoadError β}

/-- A reading ends as it ends. -/
protected theorem refl {R : α → α → Prop} (hR : ∀ a, R a a) (x : Except LoadError α) :
    SameOutcome R x x := by
  cases x with
  | error e => exact .error e
  | ok a => exact .ok (hR a)

theorem error_iff (h : SameOutcome R x y) {e : LoadError} : x = .error e ↔ y = .error e := by
  cases h with
  | error e' => rw [Except.error.injEq, Except.error.injEq]
  | ok _ => exact iff_of_false (fun h => nomatch h) fun h => nomatch h

/-- The values that two readings end with. -/
theorem rel (h : SameOutcome R x y) {a : α} {b : β} (hx : x = .ok a) (hy : y = .ok b) : R a b := by
  subst hx hy
  cases h with
  | ok hR => exact hR

/-- Readings that end with the same value are the same. -/
theorem eq {x y : Except LoadError α} (h : SameOutcome Eq x y) : x = y := by
  cases h with
  | error e => rfl
  | ok hab => rw [hab]

/-- **One step after another**, the second step begun with related values. -/
theorem bind {f : α → Except LoadError γ} {g : β → Except LoadError δ} (h : SameOutcome R x y)
    (hfg : ∀ a b, R a b → SameOutcome S (f a) (g b)) : SameOutcome S (x >>= f) (y >>= g) := by
  cases h with
  | error e => exact .error e
  | ok hR => exact hfg _ _ hR

/-- The same step first on both sides. -/
theorem bind_left {f : α → Except LoadError γ} {g : α → Except LoadError δ}
    (x : Except LoadError α) (hfg : ∀ a, SameOutcome S (f a) (g a)) :
    SameOutcome S (x >>= f) (x >>= g) :=
  (SameOutcome.refl (fun _ => rfl) x).bind fun a _ hab => hab ▸ hfg a

theorem map {f : α → γ} {g : β → δ} (h : SameOutcome R x y) (hfg : ∀ a b, R a b → S (f a) (g b)) :
    SameOutcome S (x.map f) (y.map g) := by
  cases h with
  | error e => exact .error e
  | ok hR => exact .ok (hfg _ _ hR)

/-- **Two loops over related items**, from related states to related states. -/
theorem foldlM {σ τ : Type} {V : σ → τ → Prop} {f : σ → α → Except LoadError σ}
    {g : τ → β → Except LoadError τ}
    (hstep : ∀ a b x y, V a b → R x y → SameOutcome V (f a x) (g b y)) {xs : List α} {ys : List β}
    (hlist : List.Forall₂ R xs ys) {a : σ} {b : τ} (hV : V a b) :
    SameOutcome V (xs.foldlM f a) (ys.foldlM g b) := by
  induction hlist generalizing a b with
  | nil => exact .ok hV
  | cons hxy _ ih =>
    rw [List.foldlM_cons, List.foldlM_cons]
    exact (hstep _ _ _ _ hV hxy).bind fun a b hab => ih hab

/-- Related items read one by one. -/
theorem mapM {f : α → Except LoadError γ} {g : β → Except LoadError δ}
    (hstep : ∀ x y, R x y → SameOutcome S (f x) (g y)) {xs : List α} {ys : List β}
    (hlist : List.Forall₂ R xs ys) : SameOutcome (List.Forall₂ S) (xs.mapM f) (ys.mapM g) := by
  induction hlist with
  | nil => exact .ok .nil
  | cons hxy _ ih =>
    rw [List.mapM_cons, List.mapM_cons]
    exact (hstep _ _ hxy).bind fun c d hcd => ih.bind fun cs ds hrest => .ok (.cons hcd hrest)

end SameOutcome

/-- Related items have the same numbers. -/
theorem forall₂_zipIdx {α β : Type} {R : α → β → Prop} {xs : List α} {ys : List β}
    (h : List.Forall₂ R xs ys) (n : Nat) :
    List.Forall₂ (fun x y => R x.1 y.1 ∧ x.2 = y.2) (xs.zipIdx n) (ys.zipIdx n) := by
  induction h generalizing n with
  | nil => exact .nil
  | cons hxy _ ih => exact .cons ⟨hxy, rfl⟩ (ih (n + 1))

/-- **Related items, each read in the light of those before it.** -/
theorem eachAfter_same {α : Type} {R : Tree → Tree → Prop} {V : α → α → Prop}
    {read : List α → Tree → Nat → Except LoadError α}
    (hstep : ∀ done done' t u i, List.Forall₂ V done done' → R t u →
      SameOutcome V (read done t i) (read done' u i))
    {ts us : List Tree} (h : List.Forall₂ R ts us) :
    SameOutcome (List.Forall₂ V) (eachAfter read ts) (eachAfter read us) := by
  refine SameOutcome.foldlM (fun done done' x y hdone hxy => ?_) (forall₂_zipIdx h 1) .nil
  obtain ⟨t, i⟩ := x
  obtain ⟨u, _⟩ := y
  obtain ⟨hR, rfl⟩ := hxy
  refine (hstep done done' t u i hdone hR).bind fun a b hab => .ok ?_
  exact List.rel_append hdone (.cons hab .nil)

end Load

/-! ### Fragments that differ in some places -/

namespace Tree

/-- **Two mappings with the same keys in the same order**, and related values. A tree of any shape
stands beside itself. -/
inductive SameKeys (R : String → Tree → Tree → Prop) : Tree → Tree → Prop
  | same (t : Tree) : SameKeys R t t
  | mapping {entries others : Entries}
      (h : List.Forall₂ (fun e f => e.1 = f.1 ∧ R e.1 e.2 f.2) entries others) :
      SameKeys R (.mapping entries) (.mapping others)

/-- **Two sequences of related items.** A tree of any shape stands beside itself. -/
inductive SameItems (R : Tree → Tree → Prop) : Tree → Tree → Prop
  | same (t : Tree) : SameItems R t t
  | sequence {ts us : List Tree} (h : List.Forall₂ R ts us) :
      SameItems R (.sequence ts) (.sequence us)

/-- Two objects that differ in the values under some fields. -/
def ObjectDiffersIn (fields : List String) : Tree → Tree → Prop :=
  SameKeys fun key v w => key ∈ fields ∨ v = w

/-- **Two definitions that differ in the values under some fields of their objects**, and in
nothing else. -/
def DefinitionDiffersIn (fields : List String) : Tree → Tree → Prop :=
  SameKeys fun key v w => key = "objects" ∧ SameItems (ObjectDiffersIn fields) v w ∨ v = w

end Tree

namespace Form

open Load

/-! ### Drafts that differ in some slots -/

section Drafts

variable {F : Form} {V : (s : F.Slot) → F.Value s → F.Value s → Prop}
  {E : String → Tree → Tree → Prop}

/-- Related optional values are both there or both absent. -/
theorem isSome_eq_of_rel {α : Type} {R : α → α → Prop} {x y : Option α} (h : Option.Rel R x y) :
    x.isSome = y.isSome := by
  cases h <;> rfl

/-- **Two drafts with the same slots filled**, and with related values in them. -/
def Draft.Agree (V : (s : F.Slot) → F.Value s → F.Value s → Prop) (d d' : F.Draft) : Prop :=
  ∀ s, Option.Rel (V s) (d s) (d' s)

theorem Draft.Agree.fill {d d' : F.Draft} (h : Draft.Agree V d d') {s : F.Slot} {v w : F.Value s}
    (hvw : V s v w) : Draft.Agree V (Draft.fill d s v) (Draft.fill d' s w) := by
  intro t
  rw [Draft.fill, Draft.fill]
  by_cases hst : s = t
  · subst hst
    rw [dif_pos rfl, dif_pos rfl]
    exact .some hvw
  · rw [dif_neg hst, dif_neg hst]
    exact h t

variable (F E V) in
/-- **A form that does not look into some values.** Entries whose values are related by `E` are
read alike, so far as `V` tells, whatever has been read before of other such entries. -/
structure Oblivious : Prop where
  refl : ∀ key v, E key v v
  label : ∀ {d d' : F.Draft}, Draft.Agree V d d' → F.label d = F.label d'
  read : ∀ {d d' : F.Draft} {key s v w}, Draft.Agree V d d' → F.slot? key = some s → E key v w →
    SameOutcome (V s) (F.read d key s v) (F.read d' key s w)

namespace Oblivious

variable (h : F.Oblivious V E)

include h

/-- **One entry**, entered into two drafts. -/
theorem enter {d d' : F.Draft} (hd : Draft.Agree V d d') {key : String} {v w : Tree}
    (hE : E key v w) : SameOutcome (Draft.Agree V) (F.enter d (key, v)) (F.enter d' (key, w)) := by
  rw [Form.enter, Form.enter]
  cases hs : F.slot? key with
  | none =>
    dsimp only
    rw [h.label hd]
    exact .error _
  | some s =>
    dsimp only
    rw [isSome_eq_of_rel (hd s), h.label hd]
    by_cases hsome : (d' s).isSome = true
    · rw [if_pos hsome, if_pos hsome]
      exact .error _
    · rw [if_neg hsome, if_neg hsome]
      exact (h.read hd hs hE).map fun _ _ hab => hd.fill hab

/-- **All entries of two fragments** with the same keys. -/
theorem draft {t u : Tree} (htu : Tree.SameKeys E t u) :
    SameOutcome (Draft.Agree V) (F.draft t) (F.draft u) := by
  have hblank : Draft.Agree V F.blank F.blank := fun _ => .none
  have hall : ∀ {entries others : Entries},
      List.Forall₂ (fun e f => e.1 = f.1 ∧ E e.1 e.2 f.2) entries others →
      SameOutcome (Draft.Agree V) (F.enterAll entries) (F.enterAll others) := by
    intro entries others hlist
    refine SameOutcome.foldlM (fun d d' e f hd hef => ?_) hlist hblank
    obtain ⟨key, v⟩ := e
    obtain ⟨_, w⟩ := f
    obtain ⟨rfl, hE⟩ := hef
    exact h.enter hd hE
  cases htu with
  | mapping hlist => exact hall hlist
  | same t =>
    cases t with
    | mapping entries => exact hall (List.forall₂_same.mpr fun e _ => ⟨rfl, h.refl e.1 e.2⟩)
    | _ => exact .error _

end Oblivious

end Drafts

end Form

/-! ### What two first passes know -/

/-- Two outlines of an object that differ in the trees under some fields. -/
structure ObjectOutline.Agrees (fields : List String) (o o' : ObjectOutline) : Prop where
  name : o.name = o'.name
  properties : o.properties = o'.properties
  attributes : o.attributes = o'.attributes
  links : "links" ∈ fields ∨ o.links = o'.links
  indexes : "indexes" ∈ fields ∨ o.indexes = o'.indexes

theorem ObjectOutline.Agrees.refl (fields : List String) (o : ObjectOutline) :
    o.Agrees fields o :=
  ⟨rfl, rfl, rfl, .inr rfl, .inr rfl⟩

/-- **Two outlines that differ in trees that have not been read.** -/
structure Outline.Agrees (fields : List String) (o o' : Outline) : Prop where
  name : o.name = o'.name
  attributes : o.attributes = o'.attributes
  dataTypes : o.dataTypes = o'.dataTypes
  objects : List.Forall₂ (ObjectOutline.Agrees fields) o.objects o'.objects
  files : o.files = o'.files

namespace Load

section FirstPass

variable {fields : List String} {t u : Tree}

/-- What two drafts of an object have in common. -/
def ObjectSlot.Agrees (fields : List String) (s : ObjectSlot) (v w : s.Value) : Prop :=
  s.text ∈ fields ∨ v = w

/-- A slot with another field is filled alike. -/
theorem ObjectSlot.eq_of_rel {s : ObjectSlot} (hs : s.text ∉ fields) {x y : Option s.Value}
    (h : Option.Rel (ObjectSlot.Agrees fields s) x y) : x = y := by
  cases h with
  | none => rfl
  | some hvw => rw [hvw.resolve_left hs]

/-- A slot whose values may differ, or is filled alike. -/
theorem ObjectSlot.mem_or_eq_of_rel {s : ObjectSlot} {x y : Option s.Value}
    (h : Option.Rel (ObjectSlot.Agrees fields s) x y) : s.text ∈ fields ∨ x = y :=
  or_iff_not_imp_left.mpr fun hs => ObjectSlot.eq_of_rel hs h

/-- A field of an object that the first pass reads. -/
theorem notMem_of_subset (hfields : fields ⊆ ["links", "indexes"]) {field : String}
    (h : field ∉ ["links", "indexes"]) : field ∉ fields :=
  fun hmem => h (hfields hmem)

/-- **The form of an object does not look into links and indexes.** -/
theorem oblivious_objectForm (hfields : fields ⊆ ["links", "indexes"]) (types : List DataType)
    (position : Nat) : (objectForm types position).Oblivious (ObjectSlot.Agrees fields)
      fun key v w => key ∈ fields ∨ v = w := by
  have hname : ∀ {d d' : (objectForm types position).Draft},
      Form.Draft.Agree (ObjectSlot.Agrees fields) d d' → d .name = d' .name := fun hd =>
    ObjectSlot.eq_of_rel (notMem_of_subset hfields (by decide)) (hd ObjectSlot.name)
  have hlabel : ∀ {d d' : (objectForm types position).Draft},
      Form.Draft.Agree (ObjectSlot.Agrees fields) d d' →
      (objectForm types position).label d = (objectForm types position).label d' := fun hd =>
    congrArg (objectLabel position) (hname hd)
  refine ⟨fun _ _ => .inr rfl, hlabel, fun {d d' key s v w} hd hs hE => ?_⟩
  have hkey : s.text = key := (objectLaw types position).slot?_eq_some_iff.mp hs
  rcases hE with hmem | rfl
  · rw [← hkey] at hmem
    cases s with
    | links => exact .ok (.inl hmem)
    | indexes => exact .ok (.inl hmem)
    | _ => exact absurd (hfields hmem) (by decide)
  · -- The label is all that a reader sees of the draft.
    have hread : (objectForm types position).read d key s v =
        (objectForm types position).read d' key s v := by
      simp only [objectForm, hname hd]
    rw [hread]
    exact SameOutcome.refl (fun _ => .inr rfl) _

theorem objectOutline_same (hfields : fields ⊆ ["links", "indexes"]) (types : List DataType)
    (position : Nat) (h : Tree.ObjectDiffersIn fields t u) :
    SameOutcome (ObjectOutline.Agrees fields) (objectOutline types t position)
      (objectOutline types u position) := by
  have hform := oblivious_objectForm hfields types position
  refine (hform.draft h).bind fun d d' hd => ?_
  have hfield : ∀ s : ObjectSlot, s.text ∉ ["links", "indexes"] → d s = d' s := fun s hs =>
    ObjectSlot.eq_of_rel (notMem_of_subset hfields hs) (hd s)
  rw [hform.label hd, hfield .name (by decide), hfield .properties (by decide),
    hfield .attributes (by decide)]
  refine SameOutcome.bind_left _ fun name => SameOutcome.bind_left _ fun properties => .ok ?_
  exact ⟨rfl, rfl, rfl, ObjectSlot.mem_or_eq_of_rel (hd .links),
    ObjectSlot.mem_or_eq_of_rel (hd .indexes)⟩

theorem nextObject_same (hfields : fields ⊆ ["links", "indexes"]) (types : List DataType)
    (project : Label) {done done' : List ObjectOutline}
    (hdone : List.Forall₂ (ObjectOutline.Agrees fields) done done') (position : Nat)
    (h : Tree.ObjectDiffersIn fields t u) :
    SameOutcome (ObjectOutline.Agrees fields) (nextObject types project done t position)
      (nextObject types project done' u position) := by
  refine (objectOutline_same hfields types position h).bind fun o o' ho => ?_
  have htaken : (done.any fun x => x.name == o.name) = done'.any fun x => x.name == o'.name := by
    rw [ho.name]
    induction hdone with
    | nil => rfl
    | cons hxy _ ih => rw [List.any_cons, List.any_cons, ih, hxy.name]
  rw [htaken, ho.name]
  split
  · exact .error _
  · exact .ok ho

/-- The items of two sequences. -/
theorem items_same {R : Tree → Tree → Prop} (hR : ∀ t, R t t) (h : Tree.SameItems R t u)
    (entity : Label) (name : String) :
    SameOutcome (List.Forall₂ R) (items t entity name) (items u entity name) := by
  cases h with
  | same t => exact SameOutcome.refl (fun ts => List.forall₂_same.mpr fun v _ => hR v) _
  | sequence hlist => exact .ok hlist

/-- **The objects of two definitions**, without their links and indexes. -/
theorem objectOutlines_same (hfields : fields ⊆ ["links", "indexes"]) (types : List DataType)
    (project : Label) (h : Tree.SameItems (Tree.ObjectDiffersIn fields) t u) :
    SameOutcome (List.Forall₂ (ObjectOutline.Agrees fields)) (objectOutlines types t project)
      (objectOutlines types u project) := by
  refine (items_same .same h project "objects").bind fun ts us hitems => ?_
  exact eachAfter_same (R := Tree.ObjectDiffersIn fields) (fun _ _ _ _ i hdone hobject =>
    nextObject_same hfields types project hdone i hobject) hitems

/-- What two drafts of a definition have in common. -/
def ProjectSlot.Agrees (fields : List String) : (s : ProjectSlot) → s.Value → s.Value → Prop
  | .objects => List.Forall₂ (ObjectOutline.Agrees fields)
  | .name => Eq
  | .dataTypes => Eq
  | .attributes => Eq
  | .files => Eq

theorem ProjectSlot.Agrees.refl (fields : List String) (s : ProjectSlot) (v : s.Value) :
    ProjectSlot.Agrees fields s v v := by
  cases s with
  | objects => exact List.forall₂_same.mpr fun o _ => ObjectOutline.Agrees.refl fields o
  | _ => rfl

/-- Slots that have the same value. -/
theorem eq_of_rel_eq {α : Type} {x y : Option α} (h : Option.Rel Eq x y) : x = y := by
  cases h with
  | none => rfl
  | some hvw => rw [hvw]

/-- **The form of a definition does not look into the links and indexes of objects.** -/
theorem oblivious_projectForm (hfields : fields ⊆ ["links", "indexes"]) :
    projectForm.Oblivious (ProjectSlot.Agrees fields) fun key v w =>
      key = "objects" ∧ Tree.SameItems (Tree.ObjectDiffersIn fields) v w ∨ v = w := by
  have hlabel : ∀ {d d' : projectForm.Draft},
      Form.Draft.Agree (ProjectSlot.Agrees fields) d d' →
      projectForm.label d = projectForm.label d' := fun hd =>
    congrArg projectLabel (eq_of_rel_eq (hd ProjectSlot.name))
  refine ⟨fun _ _ => .inr rfl, hlabel, fun {d d' key s v w} hd hs hE => ?_⟩
  have hkey : s.text = key := projectLaw.slot?_eq_some_iff.mp hs
  have hname : d .name = d' .name := eq_of_rel_eq (hd ProjectSlot.name)
  have htypes : d .dataTypes = d' .dataTypes := eq_of_rel_eq (hd ProjectSlot.dataTypes)
  rcases hE with ⟨hobjects, hitems⟩ | rfl
  · rw [← hkey] at hobjects
    cases s with
    | objects =>
      simp only [projectForm, hname, htypes]
      exact objectOutlines_same hfields _ _ hitems
    | _ => exact absurd hobjects (by decide)
  · have hread : projectForm.read d key s v = projectForm.read d' key s v := by
      simp only [projectForm, hname, htypes]
    rw [hread]
    exact SameOutcome.refl (ProjectSlot.Agrees.refl fields s) _

/-- A list that has to be there, seen on both sides. -/
theorem atLeastOne_same {α β : Type} {R : α → β → Prop} {x : Option (List α)} {y : Option (List β)}
    (h : Option.Rel (List.Forall₂ R) x y) (lack : Incompleteness) :
    SameOutcome (List.Forall₂ R) (atLeastOne x lack) (atLeastOne y lack) := by
  cases h with
  | none => exact .error _
  | some hlist =>
    cases hlist with
    | nil => exact .error _
    | cons hxy hrest => exact .ok (.cons hxy hrest)

/-- **The first pass goes alike** over two definitions that differ in links and indexes. -/
theorem outline_same (hfields : fields ⊆ ["links", "indexes"])
    (h : Tree.DefinitionDiffersIn fields t u) :
    SameOutcome (Outline.Agrees fields) (outline t) (outline u) := by
  have hform := oblivious_projectForm hfields
  refine (hform.draft h).bind fun d d' hd => ?_
  rw [hform.label hd, eq_of_rel_eq (hd ProjectSlot.name), eq_of_rel_eq (hd ProjectSlot.dataTypes),
    eq_of_rel_eq (hd ProjectSlot.attributes), eq_of_rel_eq (hd ProjectSlot.files)]
  refine SameOutcome.bind_left _ fun name => ?_
  refine (atLeastOne_same (hd ProjectSlot.objects) _).bind fun objects objects' hobjects => ?_
  exact SameOutcome.bind_left _ fun files => .ok ⟨rfl, rfl, rfl, hobjects, rfl⟩

end FirstPass

/-! ### The second pass -/

/-- Outlines whose links have been kept are linked alike. -/
theorem links_same {o o' : Outline} (h : o.Agrees ["indexes"] o') : links o = links o' := by
  have hnames : o.objects.map (·.name) = o'.objects.map (·.name) := by
    rw [← List.forall₂_eq_eq_eq, List.forall₂_map_left_iff, List.forall₂_map_right_iff]
    exact h.objects.imp fun _ _ hx => hx.name
  have hall : SameOutcome (List.Forall₂ Eq) (links o) (links o') := by
    rw [links, links, hnames]
    refine SameOutcome.mapM (fun x x' hx => ?_) (forall₂_zipIdx h.objects 0)
    obtain ⟨object, source⟩ := x
    obtain ⟨object', _⟩ := x'
    obtain ⟨hobject, rfl⟩ := hx
    have hlinks : object.links = object'.links := hobject.links.resolve_left (by decide)
    dsimp only
    rw [objectLinks, objectLinks, hlinks, hobject.name]
    exact SameOutcome.refl (fun _ => rfl) _
  rw [List.forall₂_eq_eq_eq] at hall
  exact hall.eq

/-- **The first two passes**: the outline, and the links of every object. -/
def linkedOutline (d : Tree) : Except LoadError (Outline × List (List Link)) := do
  let outline ← outline d
  return (outline, ← links outline)

/-- What the first two passes have found of two definitions that differ in indexes. -/
def AgreeLinked (x x' : Outline × List (List Link)) : Prop :=
  x.1.Agrees ["indexes"] x'.1 ∧ x.2 = x'.2

/-- **The first two passes go alike** over two definitions that differ in indexes. -/
theorem linkedOutline_same {d d' : Tree} (h : Tree.DefinitionDiffersIn ["indexes"] d d') :
    SameOutcome AgreeLinked (linkedOutline d) (linkedOutline d') := by
  refine (outline_same (List.subset_cons_self _ _) h).bind fun o o' ho => ?_
  rw [links_same ho]
  exact SameOutcome.bind_left _ fun rows => .ok ⟨ho, rfl⟩

/-! ### Whole loads -/

/-- A fault of the first pass is the fault of the load. -/
theorem load_of_outline_error {d : Tree} {e : LoadError} (h : outline d = .error e)
    (options : LoadOptions) : load options d = .error e := by
  rw [load, h]
  rfl

/-- Loading is the first two passes and then the third, which alone looks at the options. -/
theorem load_eq_linkedOutline (options : LoadOptions) (d : Tree) :
    load options d = (linkedOutline d >>= fun x => do
      return assemble x.1 x.2 (← indexes options x.1 x.2)) := by
  rw [load, linkedOutline, bind_assoc]
  simp only [bind_assoc, pure_bind]

/-- A fault of the first two passes is the fault of the load. -/
theorem load_of_linkedOutline_error {d : Tree} {e : LoadError} (h : linkedOutline d = .error e)
    (options : LoadOptions) : load options d = .error e := by
  rw [load_eq_linkedOutline, h]
  rfl

end Load

/-- An object without what the later passes have added to it. -/
def Object.bare (o : Object) : Object := { o with links := [], reverseLinks := [], indexes := [] }

/-- An object without its indexes. -/
def Object.unindexed (o : Object) : Object := { o with indexes := [] }

/-- **A project as the first pass knows it**: no links and no indexes. -/
def Project.bare (p : Project) : Project := { p with objects := p.objects.map Object.bare }

/-- **A project as the first two passes know it**: no indexes. -/
def Project.unindexed (p : Project) : Project :=
  { p with objects := p.objects.map Object.unindexed }

namespace Load

/-- The project of an outline and of some rows of links. -/
def drafted (outline : Outline) (rows : List (List Link)) : Project where
  name := outline.name
  attributes := outline.attributes
  dataTypes := outline.dataTypes
  objects := wired (outline.objects.map unlinked) rows
  files := outline.files

/-- Nothing in a drafted project comes of trees that have not been read. -/
theorem drafted_congr {fields : List String} {o o' : Outline} (h : o.Agrees fields o')
    (rows : List (List Link)) : drafted o rows = drafted o' rows := by
  have hobjects : o.objects.map unlinked = o'.objects.map unlinked := by
    rw [← List.forall₂_eq_eq_eq, List.forall₂_map_left_iff, List.forall₂_map_right_iff]
    refine h.objects.imp fun x x' hx => ?_
    rw [unlinked, unlinked, hx.name, hx.properties, hx.attributes]
  rw [drafted, drafted, h.name, h.attributes, h.dataTypes, hobjects, h.files]

section Loaded

variable {options : LoadOptions} {d : Tree} {p : Project}

/-- What the passes have found of a definition that loads. -/
theorem assembled_of_load (h : load options d = .ok p) :
    outline d = .ok (outlineOf d) ∧ links (outlineOf d) = .ok (linksOf d) ∧
      p = assemble (outlineOf d) (linksOf d) (indexesOf d) := by
  obtain ⟨hd, rfl⟩ := (load_yields options d p).mp h
  obtain ⟨houtline, hlinks, -⟩ := isDefinition_iff.mp hd
  exact ⟨(outline_yields d).eq_ok houtline, (links_yields d).eq_ok hlinks,
    (assemble_eq_project hd).symm⟩

/-- **A loaded project without its links and indexes is what the first pass has found.** -/
theorem bare_of_load (h : load options d = .ok p) : p.bare = drafted (outlineOf d) [] := by
  obtain ⟨-, -, rfl⟩ := assembled_of_load h
  have hobjects : (assemble (outlineOf d) (linksOf d) (indexesOf d)).objects.map Object.bare =
      wired ((outlineOf d).objects.map unlinked) [] := by
    refine List.ext_getElem? fun i => ?_
    rw [wired_unlinked, List.getElem?_map, getElem?_objects_assemble, List.getElem?_map, outlineOf,
      List.getElem?_map]
    cases (d.itemsAt "objects")[i]? <;> rfl
  rw [Project.bare, hobjects]
  rfl

/-- **A loaded project without its indexes is what the first two passes have found.** -/
theorem unindexed_of_load (h : load options d = .ok p) :
    p.unindexed = drafted (outlineOf d) (linksOf d) := by
  obtain ⟨-, -, rfl⟩ := assembled_of_load h
  have hobjects : (assemble (outlineOf d) (linksOf d) (indexesOf d)).objects.map
      Object.unindexed = wired ((outlineOf d).objects.map unlinked) (linksOf d) := by
    refine List.ext_getElem? fun i => ?_
    rw [List.getElem?_map, getElem?_objects_assemble, getElem?_wired, List.getElem?_map, outlineOf,
      List.getElem?_map, List.getD_eq_getElem?_getD, getElem?_linksOf]
    cases (d.itemsAt "objects")[i]? <;> rfl
  rw [Project.unindexed, hobjects]
  rfl

end Loaded

/-- **The passes are apart.** Definitions that differ in the links and indexes of their objects
have the same first pass: if it fails, both are refused with its error, and if both load, the
projects agree in all that belongs to no link and no index. Definitions that differ in the indexes
alone have the same first two passes, in the same sense. -/
theorem passes_apart (options options' : LoadOptions) (d d' : Tree) :
    (Tree.DefinitionDiffersIn ["links", "indexes"] d d' →
      SameOutcome (Outline.Agrees ["links", "indexes"]) (outline d) (outline d') ∧
      (∀ e, outline d = .error e → load options d = .error e ∧ load options' d' = .error e) ∧
      ∀ p p', load options d = .ok p → load options' d' = .ok p' → p.bare = p'.bare) ∧
    (Tree.DefinitionDiffersIn ["indexes"] d d' →
      SameOutcome AgreeLinked (linkedOutline d) (linkedOutline d') ∧
      (∀ e, linkedOutline d = .error e →
        load options d = .error e ∧ load options' d' = .error e) ∧
      ∀ p p', load options d = .ok p → load options' d' = .ok p' →
        p.unindexed = p'.unindexed) := by
  constructor
  · intro h
    have hsame := outline_same (List.Subset.refl _) h
    refine ⟨hsame, fun e he => ⟨?_, ?_⟩, fun p p' hp hp' => ?_⟩
    · exact load_of_outline_error he options
    · exact load_of_outline_error (hsame.error_iff.mp he) options'
    · rw [bare_of_load hp, bare_of_load hp']
      exact drafted_congr (hsame.rel (assembled_of_load hp).1 (assembled_of_load hp').1) []
  · intro h
    have hsame := linkedOutline_same h
    refine ⟨hsame, fun e he => ⟨?_, ?_⟩, fun p p' hp hp' => ?_⟩
    · exact load_of_linkedOutline_error he options
    · exact load_of_linkedOutline_error (hsame.error_iff.mp he) options'
    · obtain ⟨houtline, hlinks, -⟩ := assembled_of_load hp
      obtain ⟨houtline', hlinks', -⟩ := assembled_of_load hp'
      have hlinked : linkedOutline d = .ok (outlineOf d, linksOf d) := by
        rw [linkedOutline, houtline]
        exact congrArg (Except.map (Prod.mk (outlineOf d))) hlinks
      have hlinked' : linkedOutline d' = .ok (outlineOf d', linksOf d') := by
        rw [linkedOutline, houtline']
        exact congrArg (Except.map (Prod.mk (outlineOf d'))) hlinks'
      obtain ⟨hagree, hrows⟩ :
          (outlineOf d).Agrees ["indexes"] (outlineOf d') ∧ linksOf d = linksOf d' :=
        hsame.rel hlinked hlinked'
      rw [unindexed_of_load hp, unindexed_of_load hp', ← hrows]
      exact drafted_congr hagree _

/-- Posts that say this about the type of their one property, about their links and about their
indexes. -/
def posts (type : String) (links indexes : Tree) : Tree := .mapping [
  ("objects", .sequence [.mapping [("links", links), ("indexes", indexes), ("name", .string "Post"),
    ("properties", .sequence [.mapping [("name", .string "id"), ("type", .string type)]])]]),
  ("files", .sequence [.mapping [("scope", .string "object"), ("input", .string "model.hbs"),
    ("output", .string "model.txt")]]),
  ("name", .string "posts")]

theorem posts_differ {fields : List String} (type : String) {links indexes links' indexes' : Tree}
    (hlinks : "links" ∈ fields ∨ links = links')
    (hindexes : "indexes" ∈ fields ∨ indexes = indexes') :
    Tree.DefinitionDiffersIn fields (posts type links indexes) (posts type links' indexes') := by
  have hobject : Tree.SameItems (Tree.ObjectDiffersIn fields)
      ((posts type links indexes).field "objects") ((posts type links' indexes').field "objects") :=
    .sequence (.cons (.mapping (.cons ⟨rfl, hlinks⟩ (.cons ⟨rfl, hindexes⟩
      (.cons ⟨rfl, .inr rfl⟩ (.cons ⟨rfl, .inr rfl⟩ .nil))))) .nil)
  exact .mapping (.cons ⟨rfl, .inl ⟨rfl, hobject⟩⟩ (.cons ⟨rfl, .inr rfl⟩
    (.cons ⟨rfl, .inr rfl⟩ .nil)))

/-- A type that does not exist is reported, though nothing under `links` and `indexes` can be
read. Links that cannot be read are reported whatever the indexes. Links and indexes that are in
order leave the rest of the project alone. -/
theorem passes_apart_posts :
    (∃ e, load .default (posts "none" .null .null) = .error e ∧
      load .default (posts "none" (.sequence []) (.string "by id")) = .error e) ∧
    (∃ e, load .default (posts "id" .null .null) = .error e ∧
      load .default (posts "id" .null (.sequence [])) = .error e) ∧
    ∃ p p', load .default (posts "id" (.sequence [.mapping [("name", .string "next"),
        ("target", .string "Post")]]) (.sequence [])) = .ok p ∧
      load .default (posts "id" (.sequence []) (.sequence [.mapping [("name", .string "main"),
        ("keys", .sequence [.mapping [("property", .string "id")]])]])) = .ok p' ∧
      p ≠ p' ∧ p.bare = p'.bare := by
  let linked := posts "id"
    (.sequence [.mapping [("name", .string "next"), ("target", .string "Post")]]) (.sequence [])
  let indexed := posts "id" (.sequence []) (.sequence [.mapping [("name", .string "main"),
    ("keys", .sequence [.mapping [("property", .string "id")]])]])
  have hlinked : load .default linked = .ok (Reading.project linked) := by decide +kernel
  have hindexed : load .default indexed = .ok (Reading.project indexed) := by decide +kernel
  have hfirst := (passes_apart .default .default (posts "none" .null .null)
    (posts "none" (.sequence []) (.string "by id"))).1
      (posts_differ _ (.inl (by decide)) (.inl (by decide)))
  have hsecond := (passes_apart .default .default (posts "id" .null .null)
    (posts "id" .null (.sequence []))).2 (posts_differ _ (.inr rfl) (.inl (by decide)))
  have hboth := (passes_apart .default .default linked indexed).1
    (posts_differ _ (.inl (by decide)) (.inl (by decide)))
  exact ⟨⟨_, hfirst.2.1 _ rfl⟩, ⟨_, hsecond.2.1 _ rfl⟩, _, _, hlinked, hindexed,
    by decide +kernel, hboth.2.2 _ _ hlinked hindexed⟩

end Load

end Blueprint
