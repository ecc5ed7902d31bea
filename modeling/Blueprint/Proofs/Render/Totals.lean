import Blueprint.Proofs.Render.Reports
import Mathlib.Algebra.Ring.Nat
import Mathlib.Data.List.Induction

/-!
# Totals of reports

A report knows how many files of each scope it has, and how large they are together. The counts are
natural numbers and always add up. The total is a word, and the sizes are words too: two files of a
stored report can be larger together than any word, and then the total is wrong
(`Blueprint.RenderReport.total_wraps`).

It takes such a sum to go wrong. The total is the sum of the sizes exactly when the sum is a word,
and then no addition on the way overflows (`Blueprint.RenderReport.total_exact_iff`): the running
sum only grows, so the last one bounds them all.

A report that was read back may have any files, but it is no other than the one that recording these
files builds (`Blueprint.RenderReport.foldl_record_files`). So all reports are covered by what one
more file does to each of the numbers:

| number | with one more file | theorem |
|---|---|---|
| sum of the sizes | its size more | `Blueprint.RenderReport.exactTotal_record` |
| total | its size more, as words add | `Blueprint.RenderReport.bytesTotal_record` |
| checked total | its size more, or none | `Blueprint.RenderReport.bytesTotal?_record` |
| count of a scope | one more in its own scope | `Blueprint.RenderReport.count_record` |
-/

namespace Blueprint

namespace RenderReport

/-- **The sum of the sizes**, as a natural number. -/
def exactTotal (r : RenderReport) : Nat := (r.files.map fun f => f.bytes.toNat).sum

/-- Two words added, unless that overflows. -/
def addWords? (a b : UInt64) : Option UInt64 :=
  if a.toNat + b.toNat < 2 ^ 64 then some (a + b) else none

/-- **The total with every addition checked**: there is none as soon as one of them overflows. -/
def bytesTotal? (r : RenderReport) : Option UInt64 :=
  (r.files.map (·.bytes)).foldlM addWords? 0

/-! ### One more file -/

variable (r : RenderReport) (f : RenderedFile)

theorem exactTotal_record : (r.record f).exactTotal = r.exactTotal + f.bytes.toNat := by
  rw [exactTotal, record, List.map_append, List.sum_append, List.map_singleton, List.sum_singleton,
    exactTotal]

theorem bytesTotal_record : (r.record f).bytesTotal = r.bytesTotal + f.bytes := by
  rw [bytesTotal, record, List.map_append, List.foldl_append]
  rfl

theorem bytesTotal?_record :
    (r.record f).bytesTotal? = r.bytesTotal?.bind fun total => addWords? total f.bytes := by
  rw [bytesTotal?, record, List.map_append, List.foldlM_append, List.map_singleton]
  simp only [List.foldlM_cons, List.foldlM_nil, bind_pure]
  rfl

theorem count_record (scope : FileScope) :
    (r.record f).count scope = r.count scope + if f.scope = scope then 1 else 0 := by
  rw [count, record, List.filter_append, List.length_append, List.filter_singleton, count]
  by_cases h : f.scope = scope
  · rw [if_pos h, decide_eq_true h, cond_true, List.length_singleton]
  · rw [if_neg h, decide_eq_false h, cond_false, List.length_nil]

/-! ### All files -/

variable {r}

/-- **Every report is built by recording its files**, also one that was read back. -/
theorem foldl_record_files : r.files.foldl record (new r.runId r.startedAt) = r :=
  foldl_record (new r.runId r.startedAt) r.files

/-- **What holds of new reports and survives one more file** holds of every report. -/
theorem record_induction {motive : RenderReport → Prop}
    (new : ∀ runId startedAt, motive (new runId startedAt))
    (record : ∀ r f, motive r → motive (record r f)) (r : RenderReport) : motive r := by
  rw [← foldl_record_files (r := r)]
  induction r.files using List.reverseRecOn with
  | nil => exact new r.runId r.startedAt
  | append_singleton files f ih =>
    rw [List.foldl_append]
    exact record _ f ih

variable (r)

/-- **The total is the sum of the sizes as far as a word can tell.** -/
theorem toNat_bytesTotal : r.bytesTotal.toNat = r.exactTotal % 2 ^ 64 := by
  induction r using record_induction with
  | new runId startedAt => rfl
  | record r f ih =>
    rw [bytesTotal_record, UInt64.toNat_add, ih, exactTotal_record, Nat.mod_add_mod]

/-- **The additions are all in order if the last one is.** The total with every addition checked is
the plain one where the sum of the sizes is a word, and there is none where it is not. -/
theorem bytesTotal?_eq :
    r.bytesTotal? = if r.exactTotal < 2 ^ 64 then some r.bytesTotal else none := by
  induction r using record_induction with
  | new runId startedAt => rfl
  | record r f ih =>
    rw [bytesTotal?_record, ih, exactTotal_record, bytesTotal_record]
    by_cases h : r.exactTotal < 2 ^ 64
    · -- So far the running sum is exact, and only the last addition is in question.
      rw [if_pos h, Option.bind_some, addWords?, toNat_bytesTotal, Nat.mod_eq_of_lt h]
    · have hmore : ¬r.exactTotal + f.bytes.toNat < 2 ^ 64 := by omega
      rw [if_neg h, Option.bind_none, if_neg hmore]

/-- **The two counts make up the number of files.** -/
theorem count_add_count : r.count .project + r.count .object = r.files.length := by
  induction r using record_induction with
  | new runId startedAt => rfl
  | record r f ih =>
    have hlength : (r.record f).files.length = r.files.length + 1 := List.length_append
    rw [count_record, count_record, hlength, ← ih]
    cases f.scope with
    | project =>
      rw [if_pos rfl, if_neg nofun]
      omega
    | object =>
      rw [if_neg nofun, if_pos rfl]
      omega

/-! ### Totals that are exact -/

/-- **When a total is exact.** Of every report, recorded or read back, the total is the sum of the
sizes exactly when that sum is a word. Then no addition on the way overflows, and else one does: the
total with every addition checked is the sum, or there is none. In any case the total is the sum up
to a multiple of `2 ^ 64`, and the counts of the two scopes make up the number of files. -/
theorem total_exact_iff :
    (r.bytesTotal.toNat = r.exactTotal ↔ r.exactTotal < 2 ^ 64) ∧
    r.bytesTotal? = (if r.exactTotal < 2 ^ 64 then some r.bytesTotal else none) ∧
    r.bytesTotal.toNat = r.exactTotal % 2 ^ 64 ∧
    r.count .project + r.count .object = r.files.length := by
  refine ⟨?_, r.bytesTotal?_eq, r.toNat_bytesTotal, r.count_add_count⟩
  rw [toNat_bytesTotal]
  exact Nat.mod_eq_iff_lt (by decide)

/-- A report of a file of the largest size and one of a single byte. -/
def overfull : RenderReport :=
  ((new "run" ⟨⟨⟨2024, 1, 2⟩, 3, 4, 5, 0⟩, by decide⟩).record
    ⟨1, .project, "index.hbs", "index.md", none, 0xffffffffffffffff, true⟩).record
    ⟨2, .object, "card.hbs", "card.md", some "User", 1, true⟩

/-- **A total may be wrong.** A report that recording two files builds, and that is read back from
its text, has more bytes than a word can tell, and its total is zero. -/
theorem total_wraps :
    ofJson? overfull.toJson = some overfull ∧ overfull.exactTotal = 2 ^ 64 ∧
    overfull.bytesTotal = 0 ∧ overfull.bytesTotal? = none ∧
    overfull.bytesTotal.toNat ≠ overfull.exactTotal := by
  have hexact : overfull.exactTotal = 2 ^ 64 := by decide
  have htotal : overfull.bytesTotal = 0 := by decide
  refine ⟨overfull.ofJson?_toJson, hexact, htotal, ?_, ?_⟩
  · rw [bytesTotal?_eq, hexact, if_neg (Nat.lt_irrefl _)]
  · rw [hexact, htotal]
    decide

end RenderReport

end Blueprint
