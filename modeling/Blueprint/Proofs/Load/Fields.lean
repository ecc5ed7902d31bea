import Blueprint.Proofs.Load.Entries

/-!
# Which values a field takes

The readers of single values against the grammar: a text, an identifier and so on is
accepted exactly when it is one, and the answer is what
`Blueprint.Proofs.Load.Reading` says. The last part puts a field into its entity: a field
that has to be there and one that may be absent, seen from the draft of a form.
-/

namespace Blueprint

namespace Load

open Grammar

/-! ### Single values -/

variable (raw : Tree) (entity : Label) (name : String)

theorem text_yields : Yields (text raw entity name) (IsText raw) raw.trimmed := by
  cases raw with
  | string s =>
    rw [text]
    by_cases hs : trim s = ""
    · rw [if_pos hs]
      refine Yields.error _ ?_
      rintro ⟨_, ⟨⟩, hne⟩
      exact hne hs
    · rw [if_neg hs]
      exact (Yields.ok _).congr ⟨fun _ => ⟨s, rfl, hs⟩, fun _ => trivial⟩ fun _ => rfl
  | _ =>
    refine Yields.error _ ?_
    rintro ⟨_, h, _⟩
    exact nomatch h

theorem identifier_yields : Yields (identifier raw entity name) (IsIdentifier raw) raw.trimmed := by
  refine ((text_yields raw entity name).bind fun _ => Yields.ite_error _ _).congr ?_ fun _ => rfl
  rw [IsIdentifier, Bool.not_eq_true]

theorem boolean_yields :
    Yields (boolean raw entity name) (IsBoolean raw) (raw.asBoolean?.getD false) := by
  refine (orError_getD_yields _ _ _).congr ?_ fun _ => rfl
  cases raw <;> simp [Tree.asBoolean?, IsBoolean]

theorem number_yields (z : Number) :
    Yields (number raw entity name) (IsNumber raw) (raw.asNumber?.getD z) := by
  refine (orError_getD_yields _ _ _).congr ?_ fun _ => rfl
  cases raw <;> simp [Tree.asNumber?, IsNumber]

theorem isSome_ofTree?_iff : (Scalar.ofTree? raw).isSome = true ↔ IsScalar raw := by
  cases raw <;> simp [Scalar.ofTree?, IsScalar, IsBoolean, IsNumber]

theorem scalar_yields (z : Scalar) :
    Yields (scalar raw entity name) (IsScalar raw) ((Scalar.ofTree? raw).getD z) :=
  (orError_getD_yields _ _ _).congr (isSome_ofTree?_iff raw) fun _ => rfl

theorem attributeValue_yields :
    Yields (attributeValue raw entity) (IsAttributeValue raw) (Reading.attributeValue raw) := by
  cases raw with
  | string s =>
    have htext := (text_yields (.string s) entity "value").map Scalar.string
    have hsame : attributeValue (.string s) entity =
        (text (.string s) entity "value").map Scalar.string := by
      rw [attributeValue, text]
      split <;> rfl
    rw [hsame]
    refine htext.congr ?_ fun _ => rfl
    simp [IsAttributeValue, IsBoolean, IsNumber]
  | boolean b => exact (Yields.ok _).congr (iff_of_true trivial (.inl ⟨b, rfl⟩)) fun _ => rfl
  | number n => exact (Yields.ok _).congr (iff_of_true trivial (.inr (.inl ⟨n, rfl⟩))) fun _ => rfl
  | _ =>
    refine Yields.error _ ?_
    rintro (⟨_, ⟨⟩⟩ | ⟨_, ⟨⟩⟩ | ⟨_, ⟨⟩, _⟩)

/-- A text that has to be one of a list. -/
theorem text_bind_yields {α : Type} {f : String → Except LoadError α} {texts : List String} {v : α}
    (h : Yields (f raw.trimmed) (raw.trimmed ∈ texts) v) :
    Yields (text raw entity name >>= f) (IsOneOf texts raw) v :=
  (text_yields raw entity name).bind fun _ => h

/-! ### Fields of an entity -/

section Places

variable {t : Tree} {key : String} {P : Tree → Prop}

/-- A field that has to be there is there, and takes what it may take. -/
theorem requires_iff : Requires t key P ↔ (t.get? key).isSome = true ∧ Allows t key P := by
  rw [Requires, Allows]
  cases t.get? key with
  | none => simp
  | some v => simp

/-- What stands in a field that has to be there. -/
theorem requires_iff_field :
    Requires t key P ↔ (t.get? key).isSome = true ∧ P (t.field key) := by
  rw [Requires, Tree.field]
  cases t.get? key with
  | none => simp
  | some v => simp

/-- Two things asked of a field that may be absent. -/
theorem allows_and_iff {Q : Tree → Prop} :
    Allows t key (fun v => P v ∧ Q v) ↔ Allows t key P ∧ Allows t key Q := by
  constructor
  · exact fun h => ⟨fun v hv => (h v hv).1, fun v hv => (h v hv).2⟩
  · exact fun h v hv => ⟨h.1 v hv, h.2 v hv⟩

/-- **A list that has to be there and must not be empty**, as it is found out: what was made
of it is not empty, and what may stand there is a list. -/
theorem requires_list_iff {α : Type} {f : Tree → List α} (hf : ∀ v, f v = [] ↔ v.items = []) :
    Requires t key (IsNonemptySequenceOf P) ↔
      ((t.get? key).isSome = true ∧ f (t.field key) ≠ []) ∧ Allows t key (IsSequenceOf P) := by
  constructor
  · intro h
    obtain ⟨hsome, hsequence, hne⟩ := requires_iff_field.mp h
    have hlist := requires_iff.mp (requires_iff_field.mpr ⟨hsome, hsequence⟩)
    exact ⟨⟨hsome, fun h => hne ((hf _).mp h)⟩, hlist.2⟩
  · rintro ⟨⟨hsome, hne⟩, hlist⟩
    have hsequence := requires_iff_field.mp (requires_iff.mpr ⟨hsome, hlist⟩)
    exact requires_iff_field.mpr ⟨hsome, hsequence.2, fun h => hne ((hf _).mpr h)⟩

/-- What may be asked of an absent list as well, asked of the items of a field. -/
theorem allows_items_iff {Q : List Tree → Prop} (hnil : Q []) :
    Allows t key (fun v => Q v.items) ↔ Q (t.itemsAt key) := by
  rw [Allows, Tree.itemsAt, Tree.field]
  cases t.get? key with
  | none => exact iff_of_true (by rintro _ ⟨⟩) hnil
  | some v => exact ⟨fun h => h v rfl, by rintro h _ ⟨⟩; exact h⟩

/-- Distinct names of the items of a list that may be absent. -/
theorem allows_distinct_iff {f : Tree → String} :
    Allows t key (fun v => (v.items.map f).Nodup) ↔ ((t.itemsAt key).map f).Nodup :=
  allows_items_iff (Q := fun ts => (ts.map f).Nodup) List.nodup_nil

end Places

/-- **A field that has to be there**, once what stands in it has been read. -/
theorem field_yields {α : Type} {t : Tree} {e : LoadError} (key : String) (f : Tree → α) :
    Yields (orError ((t.get? key).map f) e) ((t.get? key).isSome = true) (f (t.field key)) := by
  rw [Tree.field]
  cases t.get? key with
  | none => exact Yields.error _ Bool.false_ne_true
  | some v => exact (Yields.ok _).congr (iff_of_true trivial rfl) fun _ => rfl

/-- A list that passes the test for having items. -/
theorem filter_isEmpty_eq_some_iff {α : Type} {o : Option (List α)} {xs : List α} :
    o.filter (fun xs => !xs.isEmpty) = some xs ↔ o = some xs ∧ xs ≠ [] := by
  rw [Option.filter_eq_some_iff, Bool.not_eq_true', List.isEmpty_eq_false_iff]

/-- A list that has to be there and must not be empty, once it has been read. -/
theorem list_field_yields {α : Type} {t : Tree} {e : LoadError} (key : String)
    (f : Tree → List α) :
    Yields (orError (((t.get? key).map f).filter fun xs => !xs.isEmpty) e)
      ((t.get? key).isSome = true ∧ f (t.field key) ≠ []) (f (t.field key)) := by
  refine orError_yields fun xs => ?_
  rw [filter_isEmpty_eq_some_iff, Tree.field]
  cases t.get? key with
  | none => exact iff_of_false (by rintro ⟨⟨⟩, -⟩) (by rintro ⟨⟨⟨⟩, -⟩, -⟩)
  | some v =>
    rw [Option.map_some, Option.some.injEq, Option.getD_some, Option.isSome_some, eq_self,
      true_and, and_comm]
    exact and_congr_left fun h => by rw [h]

/-- **A list that may be absent**, which is then as good as an empty one. -/
theorem optional_items_yields {α : Type} {t : Tree} {P : Tree → Prop}
    {f : Tree → Except LoadError (List α)} {R : Tree → α} (key : String)
    (h : ∀ v, Yields (f v) (P v) (v.items.map R)) :
    Yields (match t.get? key with
      | none => .ok []
      | some v => f v) (Allows t key P) ((t.itemsAt key).map R) := by
  rw [Allows, Tree.itemsAt, Tree.field]
  cases t.get? key with
  | none => exact (Yields.ok _).congr (iff_of_true trivial (by rintro _ ⟨⟩)) fun _ => rfl
  | some v => exact (h v).congr ⟨by rintro h _ ⟨⟩; exact h, fun h => h v rfl⟩ fun _ => rfl

/-! ### Lists -/

theorem isSequenceOf_iff {P : Tree → Prop} {t : Tree} :
    IsSequenceOf P t ↔ (∃ ts, t = .sequence ts) ∧ ∀ u ∈ t.items, P u := by
  constructor
  · rintro ⟨ts, rfl, h⟩
    exact ⟨⟨ts, rfl⟩, h⟩
  · rintro ⟨⟨ts, rfl⟩, h⟩
    exact ⟨ts, rfl, h⟩

theorem items_yields : Yields (items raw entity name) (∃ ts, raw = .sequence ts) raw.items := by
  cases raw with
  | sequence ts => exact (Yields.ok _).congr (iff_of_true trivial ⟨ts, rfl⟩) fun _ => rfl
  | _ =>
    refine Yields.error _ ?_
    rintro ⟨_, h⟩
    exact nomatch h

/-- **A sequence, item by item**, under a condition `Q` on all of it. -/
theorem sequence_yields {α : Type} {f : List Tree → Except LoadError (List α)} {P : Tree → Prop}
    {Q : Prop} {vs : List α} (h : Yields (f raw.items) ((∀ t ∈ raw.items, P t) ∧ Q) vs) :
    Yields (items raw entity name >>= f) (IsSequenceOf P raw ∧ Q) vs := by
  refine ((items_yields raw entity name).bind fun _ => h).congr ?_ fun _ => rfl
  rw [isSequenceOf_iff, and_assoc]

/-- Marking the last of some numbered items is telling every item whether its number is
the last one. -/
theorem markLast_zipIdx {α : Type} {mark : α → α} {read : Nat → Bool → Tree → α}
    (h : ∀ i t, mark (read i false t) = read i true t) (ts : List Tree) (n : Nat) :
    markLast mark ((ts.zipIdx n).map fun x => read x.2 false x.1) =
      (ts.zipIdx n).map fun x => read x.2 (x.2 + 1 == n + ts.length) x.1 := by
  induction ts generalizing n with
  | nil => rfl
  | cons t ts ih =>
    -- The mark is put where the list ends, so the second item decides about the first.
    cases ts with
    | nil =>
      rw [List.zipIdx_singleton, List.map_singleton, List.map_singleton, List.length_singleton,
        beq_self_eq_true]
      exact congrArg (fun a => [a]) (h n t)
    | cons u us =>
      have hhead : (n + 1 == n + (u :: us).length.succ) = false := by
        rw [beq_eq_false_iff_ne, List.length_cons]
        omega
      have htail : n + 1 + (u :: us).length = n + (u :: us).length.succ := by omega
      have hmark := ih (n + 1)
      rw [htail] at hmark
      rw [List.zipIdx_cons, List.map_cons, List.map_cons, List.length_cons, hhead, ← hmark]
      rfl

/-- **A list read item by item, its last item marked afterwards.** -/
theorem markLast_eq_marked {α : Type} {mark : α → α} {read : Nat → Bool → Tree → α}
    (h : ∀ i t, mark (read i false t) = read i true t) (ts : List Tree) :
    markLast mark ((ts.zipIdx 1).map fun x => read x.2 false x.1) = Reading.marked read ts := by
  rw [markLast_zipIdx h, Reading.marked]
  refine List.map_congr_left fun x _ => ?_
  have hlast : (x.2 + 1 == 1 + ts.length) = (x.2 == ts.length) := by
    rw [Nat.add_comm 1, Bool.eq_iff_iff, beq_iff_eq, beq_iff_eq, Nat.add_right_cancel_iff]
  rw [hlast]

/-- **A sequence whose last item is marked**, under no condition but on its items. -/
theorem sequence_marked_yields {α : Type} {read : Tree → Nat → Except LoadError α} {mark : α → α}
    {P : Tree → Prop} {R : Nat → Bool → Tree → α} (hmark : ∀ i t, mark (R i false t) = R i true t)
    (h : ∀ t i, Yields (read t i) (P t) (R i false t)) :
    Yields (items raw entity name >>= fun ts => each read ts >>= fun xs => pure (markLast mark xs))
      (IsSequenceOf P raw) (Reading.marked R raw.items) := by
  have hall := (each_yields h raw.items).bind (f := fun xs => pure (markLast mark xs))
    fun _ => Yields.pure _
  refine (sequence_yields raw entity name hall).congr (iff_of_eq (and_true _)) fun _ => ?_
  exact markLast_eq_marked hmark raw.items

end Load

end Blueprint
