import Mathlib.Data.List.Induction

/-!
# Steps that may fail

Readers, disks and render runs are all written in steps, each of which answers a value or an
error. The lemmas of this file say how a computation of several steps has ended, whatever the
steps are about.
-/

namespace Blueprint

variable {ε α β γ : Type}

/-- A step succeeds whatever is made of its errors. -/
theorem mapError_eq_ok_iff {δ : Type} {f : ε → δ} {x : Except ε α} {a : α} :
    x.mapError f = .ok a ↔ x = .ok a := by
  cases x <;> simp [Except.mapError]

/-- A step fails of what is made of its error. -/
theorem mapError_eq_error_iff {δ : Type} {f : ε → δ} {x : Except ε α} {e : δ} :
    x.mapError f = .error e ↔ ∃ cause, x = .error cause ∧ f cause = e := by
  cases x <;> simp [Except.mapError]

/-- **Two steps succeed when both do.** -/
theorem bind_eq_ok_iff {x : Except ε α} {f : α → Except ε β} {b : β} :
    x >>= f = .ok b ↔ ∃ a, x = .ok a ∧ f a = .ok b := by
  cases x <;> simp [bind, Except.bind]

/-- **Two steps fail where one of them does**, the second only after the first has succeeded. -/
theorem bind_eq_error_iff {x : Except ε α} {f : α → Except ε β} {e : ε} :
    x >>= f = .error e ↔ x = .error e ∨ ∃ a, x = .ok a ∧ f a = .error e := by
  cases x <;> simp [bind, Except.bind]

/-- A step that goes on from a value that was changed. -/
theorem map_bind_eq {f : α → β} {k : β → Except ε γ} (x : Except ε α) :
    x.map f >>= k = x >>= fun a => k (f a) := by
  cases x <;> rfl

/-- A change at the end of two steps. -/
theorem bind_map_eq {f : β → γ} {k : α → Except ε β} (x : Except ε α) :
    (x >>= k).map f = x >>= fun a => (k a).map f := by
  cases x <;> rfl

end Blueprint
