import Blueprint.Load.Property
import Blueprint.Proofs.Outcome
import Mathlib.Data.List.Nodup

/-!
# When reading succeeds

Everything the loader reads is a value of `Except LoadError`, and what is worth saying of
it is always the same: under which condition it succeeds, and with which value.
`Blueprint.Load.Yields x P v` says both at once, and the lemmas of this file follow the
ways in which readings are put together.

| reading | lemma |
|---|---|
| one step after another | `Blueprint.Load.Yields.bind` |
| an optional value that has to be there | `Blueprint.Load.orError_yields` |
| a list, item by item | `Blueprint.Load.each_yields` |
| a list whose items must differ from those before them | `Blueprint.Load.eachAfter_yields` |

The last is where a condition on the state of a loop becomes one on its result: an item
is refused when its name is among those read before it, and none is refused exactly
when the names are distinct.
-/

namespace Blueprint

namespace Load

/-- **A reading succeeds exactly under a condition, and then with one value.** The value
is of no importance where the condition fails. -/
def Yields {α : Type} (x : Except LoadError α) (P : Prop) (v : α) : Prop :=
  ∀ a, x = .ok a ↔ P ∧ v = a

namespace Yields

variable {α β : Type} {x : Except LoadError α} {P Q : Prop} {v w : α}

/-- Where the condition holds, the reading answers the value. -/
theorem eq_ok (h : Yields x P v) (hP : P) : x = .ok v :=
  (h v).mpr ⟨hP, rfl⟩

/-- The condition, as a success. -/
theorem exists_eq_ok_iff (h : Yields x P v) : (∃ a, x = .ok a) ↔ P :=
  ⟨fun ⟨a, ha⟩ => ((h a).mp ha).1, fun hP => ⟨v, h.eq_ok hP⟩⟩

/-- The condition may be put in other words, and the value as well where the condition
holds. -/
theorem congr (h : Yields x P v) (hPQ : P ↔ Q) (hvw : Q → v = w) : Yields x Q w := by
  intro a
  rw [h a, hPQ]
  exact and_congr_right fun hQ => by rw [hvw hQ]

protected theorem ok (v : α) : Yields (.ok v) True v := by
  intro a
  rw [true_and, Except.ok.injEq]

protected theorem pure (v : α) : Yields (pure v) True v := Yields.ok v

/-- An error is no value. -/
theorem error (e : LoadError) (hP : ¬P) : Yields (.error e : Except LoadError α) P v := by
  intro a
  constructor
  · exact fun h => nomatch h
  · exact fun h => absurd h.1 hP

/-- A value with a reason to refuse it. -/
theorem ite_error {c : Prop} [Decidable c] (e : LoadError) (v : α) :
    Yields (if c then .error e else .ok v) (¬c) v := by
  by_cases hc : c
  · rw [if_pos hc]
    exact Yields.error e fun h => h hc
  · rw [if_neg hc]
    exact (Yields.ok v).congr (iff_of_true trivial hc) fun _ => rfl

/-- **One step after another**: both conditions, the second at the value of the
first. -/
theorem bind {f : α → Except LoadError β} {b : β} (h : Yields x P v) (hf : P → Yields (f v) Q b) :
    Yields (x >>= f) (P ∧ Q) b := by
  intro c
  cases x with
  | error e =>
    have hP : ¬P := fun hP => nomatch h.eq_ok hP
    constructor
    · exact fun hc => nomatch hc
    · exact fun hc => absurd hc.1.1 hP
  | ok a =>
    obtain ⟨hP, rfl⟩ := (h a).mp rfl
    exact (hf hP c).trans (by rw [and_iff_right hP])

/-- A result changed afterwards. -/
theorem map (h : Yields x P v) (f : α → β) : Yields (x.map f) P (f v) := by
  intro b
  cases x with
  | error e => exact ⟨fun hb => (nomatch hb), fun hb => (nomatch h.eq_ok hb.1)⟩
  | ok a =>
    obtain ⟨hP, rfl⟩ := (h a).mp rfl
    rw [Except.map, Except.ok.injEq, and_iff_right hP]

end Yields

/-! ### Optional values -/

section Optional

variable {α : Type}

theorem orError_yields {o : Option α} {e : LoadError} {P : Prop} {v : α}
    (h : ∀ a, o = some a ↔ P ∧ v = a) : Yields (orError o e) P v := by
  intro a
  rw [← h a]
  cases o with
  | none => exact ⟨fun ha => (nomatch ha), fun ha => (nomatch ha)⟩
  | some b => rw [orError, Except.ok.injEq, Option.some.injEq]

/-- An optional value that has to be there. -/
theorem orError_getD_yields (o : Option α) (e : LoadError) (z : α) :
    Yields (orError o e) (o.isSome = true) (o.getD z) := by
  apply orError_yields
  cases o with
  | none => simp
  | some b => simp

end Optional

/-! ### Lists -/

section Lists

variable {α β : Type}

/-- **A list read step by step**: every step succeeds. -/
theorem mapM_yields {f : β → Except LoadError α} {G : β → Prop} {R : β → α} :
    ∀ {xs : List β}, (∀ x ∈ xs, Yields (f x) (G x) (R x)) →
      Yields (xs.mapM f) (∀ x ∈ xs, G x) (xs.map R)
  | [], _ => by
    rw [List.mapM_nil]
    exact (Yields.pure []).congr (by simp) fun _ => rfl
  | x :: xs, h => by
    rw [List.mapM_cons]
    have hx := h x List.mem_cons_self
    have hxs := mapM_yields fun y hy => h y (List.mem_cons_of_mem x hy)
    refine (hx.bind fun _ => hxs.bind fun _ => Yields.pure (R x :: xs.map R)).congr ?_ fun _ => rfl
    rw [and_true, List.forall_mem_cons]

/-- A condition on the items of a numbered list is one on the items. -/
theorem forall_mem_zipIdx {G : Tree → Prop} {ts : List Tree} {n : Nat} :
    (∀ x ∈ ts.zipIdx n, G x.1) ↔ ∀ t ∈ ts, G t := by
  rw [← List.forall_mem_map, List.zipIdx_map_fst]

/-- A list made of the items of a numbered list. -/
theorem map_zipIdx {β : Type} (f : Tree → β) (ts : List Tree) (n : Nat) :
    ((ts.zipIdx n).map fun x => f x.1) = ts.map f := by
  change (ts.zipIdx n).map (f ∘ Prod.fst) = ts.map f
  rw [← List.map_map, List.zipIdx_map_fst]

/-- **The items of a list, one by one**, each at its position counted from one. -/
theorem each_yields {read : Tree → Nat → Except LoadError α} {G : Tree → Prop}
    {R : Tree → Nat → α} (h : ∀ t i, Yields (read t i) (G t) (R t i)) (ts : List Tree) :
    Yields (each read ts) (∀ t ∈ ts, G t) ((ts.zipIdx 1).map fun x => R x.1 x.2) :=
  (mapM_yields fun x _ => h x.1 x.2).congr forall_mem_zipIdx fun _ => rfl

/-- Items that are read alike wherever they stand. -/
theorem each_yields_map {read : Tree → Nat → Except LoadError α} {G : Tree → Prop} {R : Tree → α}
    (h : ∀ t i, Yields (read t i) (G t) (R t)) (ts : List Tree) :
    Yields (each read ts) (∀ t ∈ ts, G t) (ts.map R) :=
  (each_yields h ts).congr Iff.rfl fun _ => map_zipIdx R ts 1

/-- Numbering the items of a numbered list once more tells nothing new. -/
theorem zipIdx_zipIdx (ts : List Tree) (n : Nat) :
    (ts.zipIdx n).zipIdx n = (ts.zipIdx n).map fun x => (x, x.2) := by
  induction ts generalizing n with
  | nil => rfl
  | cons t ts ih => rw [List.zipIdx_cons, List.zipIdx_cons, List.map_cons, ih]

/-- **A pass over a numbered list** whose items have themselves been made of some fragments
and their numbers. -/
theorem pass_yields {f : β × Nat → Except LoadError α} {g : Tree × Nat → β} {G : Tree → Prop}
    {R : Tree → Nat → α} {xs : List β} {ts : List Tree} (hxs : xs = ts.zipIdx.map g)
    (h : ∀ t i, Yields (f (g (t, i), i)) (G t) (R t i)) :
    Yields (xs.zipIdx.mapM f) (∀ t ∈ ts, G t) (ts.zipIdx.map fun x => R x.1 x.2) := by
  have hlist : xs.zipIdx = ts.zipIdx.map fun x => (g x, x.2) := by
    rw [hxs, List.zipIdx_map, zipIdx_zipIdx, List.map_map]
    rfl
  rw [hlist, List.mapM_map]
  exact (mapM_yields fun x _ => h x.1 x.2).congr forall_mem_zipIdx fun _ => rfl

/-- **What one item adds to a list of distinct names**: its own name, which has to be new.
The condition `u` says whether names have to be distinct at all. -/
theorem nodup_append_concat_iff {κ : Type} {u G H : Prop} {base names : List κ} {name : κ} :
    (G ∧ (u → (base ++ names).Nodup)) ∧ H ∧ (u → name ∉ base ++ names) ↔
      (G ∧ H) ∧ (u → (base ++ (names ++ [name])).Nodup) := by
  rw [← List.append_assoc, ← List.concat_eq_append, List.nodup_concat]
  constructor
  · rintro ⟨⟨hG, hnames⟩, hH, hname⟩
    exact ⟨⟨hG, hH⟩, fun hu => ⟨hname hu, hnames hu⟩⟩
  · rintro ⟨⟨hG, hH⟩, hall⟩
    exact ⟨⟨hG, fun hu => (hall hu).2⟩, hH, fun hu => (hall hu).1⟩

/-- The last item of a list is read in the light of all others. -/
theorem eachAfter_concat (read : List α → Tree → Nat → Except LoadError α) (ts : List Tree)
    (t : Tree) : eachAfter read (ts ++ [t]) = (eachAfter read ts >>= fun done => do
      return done ++ [← read done t (ts.length + 1)]) := by
  rw [eachAfter, List.zipIdx_append, List.foldlM_append, Nat.add_comm ts.length 1]
  simp [eachAfter]

/-- **A list whose items must have new names**: each item is read alike, and refused when
`base` or an item before it has its name. All are accepted exactly when the names are
distinct. The condition `u` says whether names matter at all. -/
theorem eachAfter_yields {κ : Type} {read : List α → Tree → Nat → Except LoadError α}
    {G : Tree → Prop} {R : Tree → α} {u : Prop} {base : List κ} (hbase : base.Nodup) (key : α → κ)
    (h : ∀ done t i,
      Yields (read done t i) (G t ∧ (u → key (R t) ∉ base ++ done.map key)) (R t))
    (ts : List Tree) :
    Yields (eachAfter read ts)
      ((∀ t ∈ ts, G t) ∧ (u → (base ++ (ts.map R).map key).Nodup)) (ts.map R) := by
  -- The loop appends at the end, so the list is taken apart there.
  induction ts using List.reverseRecOn with
  | nil =>
    refine (Yields.pure []).congr ⟨fun _ => ⟨by simp, fun _ => ?_⟩, fun _ => trivial⟩ fun _ => rfl
    rwa [List.map_nil, List.map_nil, List.append_nil]
  | append_singleton ts t ih =>
    rw [eachAfter_concat]
    refine (ih.bind fun _ => (h _ t _).bind fun _ => Yields.pure (ts.map R ++ [R t])).congr ?_ ?_
    · rw [and_true, nodup_append_concat_iff, List.map_append, List.map_append,
        List.forall_mem_append]
      simp
    · intro _
      rw [List.map_append, List.map_singleton]

/-- A list whose items must have names of their own. -/
theorem eachAfter_distinct_yields {κ : Type} {read : List α → Tree → Nat → Except LoadError α}
    {G : Tree → Prop} {R : Tree → α} (key : α → κ)
    (h : ∀ done t i, Yields (read done t i) (G t ∧ key (R t) ∉ done.map key) (R t))
    (ts : List Tree) :
    Yields (eachAfter read ts) ((∀ t ∈ ts, G t) ∧ ((ts.map R).map key).Nodup) (ts.map R) := by
  have hstep : ∀ done t i,
      Yields (read done t i) (G t ∧ (True → key (R t) ∉ [] ++ done.map key)) (R t) := by
    intro done t i
    rw [true_imp_iff, List.nil_append]
    exact h done t i
  refine (eachAfter_yields List.nodup_nil key hstep ts).congr ?_ fun _ => rfl
  rw [true_imp_iff, List.nil_append]

/-- Looking for a name among some items. -/
theorem any_beq_iff {κ : Type} [BEq κ] [LawfulBEq κ] {key : α → κ} {done : List α} {k : κ} :
    (done.any fun a => key a == k) = true ↔ k ∈ done.map key := by
  rw [List.any_eq_true, List.mem_map]
  exact exists_congr fun a => and_congr_right fun _ => beq_iff_eq

/-- **An item that is looked at once more**, and refused for a reason found then. -/
theorem unless_yields {x : Except LoadError α} {P Q : Prop} {v : α} {c : α → Bool}
    {e : α → LoadError} (hx : Yields x P v) (hc : c v = true ↔ Q) :
    Yields (x >>= fun a => if c a then .error (e a) else .ok a) (P ∧ ¬Q) v := by
  rw [← hc]
  exact hx.bind fun _ => Yields.ite_error (e v) v

end Lists

end Load

end Blueprint
