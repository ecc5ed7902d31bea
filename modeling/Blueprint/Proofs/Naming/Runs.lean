import Blueprint.Naming
import Mathlib.Data.List.Basic

/-!
# Runs between separators

A name that has separators is split at them and nowhere else. This module says what the
parts are, of the text itself: a **run** (`Blueprint.IsRun`) is a stretch without
separators that ends, on each side, at a separator or at the end of the text. Two
separators beside each other have an empty run between them, which is no word.

A text may hold the same run twice, so which runs it has is not a question of the runs
alone: `Blueprint.runPlaces` lists each run after the characters before it. One more
character in front moves every later place by one (`Blueprint.isRun_cons_cons`), and
either stands before an empty first run or belongs to the first run
(`Blueprint.isRun_nil_cons`); the places are listed by the same two steps, so the list has
exactly the runs (`Blueprint.mem_runPlaces`), in the order in which they stand
(`Blueprint.pairwise_runPlaces`).
-/

namespace Blueprint

/-! ### Separators -/

/-- The separators of words. -/
def separators : List Char := ['-', ' ', '|', ':']

@[simp] theorem isSeparator_iff {c : Char} : isSeparator c = true ↔ c ∈ separators := by
  simp [isSeparator, separators, or_assoc]

/-! ### Splitting, one character at a time -/

theorem splitRuns_ne_nil (s : List Char) : splitRuns s ≠ [] := by
  cases s with
  | nil => simp [splitRuns]
  | cons c cs =>
    rw [splitRuns]
    split
    · simp
    · split <;> simp

theorem splitRuns_cons (c : Char) (cs : List Char) :
    splitRuns (c :: cs) =
      if isSeparator c then [] :: splitRuns cs else (splitRuns cs).modifyHead (c :: ·) := by
  obtain ⟨run, runs, hruns⟩ := List.exists_cons_of_ne_nil (splitRuns_ne_nil cs)
  simp [splitRuns, hruns]

/-- A character in front of the first of some words is in front of them all. -/
theorem flatten_modifyHead {words : List (List Char)} (h : words ≠ []) (c : Char) :
    (words.modifyHead (c :: ·)).flatten = c :: words.flatten := by
  obtain ⟨word, words, rfl⟩ := List.exists_cons_of_ne_nil h
  rfl

/-- **The runs lose the separators and nothing else.** -/
theorem flatten_splitRuns (s : List Char) :
    (splitRuns s).flatten = s.filter (fun c => c ∉ separators) := by
  induction s with
  | nil => simp [splitRuns]
  | cons c cs ih =>
    rw [splitRuns_cons]
    by_cases hc : c ∈ separators
    · simp [hc, ih]
    · simp [hc, ih, flatten_modifyHead (splitRuns_ne_nil cs)]

/-! ### Runs of a text -/

/-- **A run** of the text `s`: free of separators, and closed on both sides by a separator
or by the end of the text. -/
structure IsRun (s before run after : List Char) : Prop where
  /-- The text is the run and what is before and after it. -/
  text : s = before ++ run ++ after
  /-- No separator is inside. -/
  free : ∀ c ∈ run, c ∉ separators
  /-- What is before ends with a separator, if there is anything. -/
  opens : ∀ c ∈ before.getLast?, c ∈ separators
  /-- What is after starts with a separator, if there is anything. -/
  closes : ∀ c ∈ after.head?, c ∈ separators

variable {c : Char} {cs before run after : List Char}

theorem isRun_nil : IsRun [] before run after ↔ before = [] ∧ run = [] ∧ after = [] := by
  constructor
  · intro h
    simpa [and_assoc, eq_comm] using h.text
  · rintro ⟨rfl, rfl, rfl⟩
    constructor <;> simp

/-- A place one character further on is a place of the longer text, when what is before it
still ends the same way. -/
theorem isRun_cons_cons {c' : Char} :
    IsRun (c :: cs) (c' :: before) run after ↔
      c' = c ∧ IsRun cs before run after ∧ (before = [] → c ∈ separators) := by
  constructor
  · intro h
    obtain ⟨rfl, htext⟩ : c = c' ∧ cs = before ++ run ++ after := by simpa using h.text
    have hopens := h.opens
    rw [List.getLast?_cons] at hopens
    refine ⟨rfl, ⟨htext, h.free, fun d hd => hopens d ?_, h.closes⟩, ?_⟩
    · simp [Option.mem_def.1 hd]
    · rintro rfl
      simpa using hopens
  · rintro ⟨rfl, h, hfirst⟩
    refine ⟨by simp [h.text], h.free, fun d hd => ?_, h.closes⟩
    cases before with
    | nil => simp_all
    | cons e before => exact h.opens d (by simpa using hd)

/-- The run at the start of a text. -/
theorem isRun_nil_cons :
    IsRun (c :: cs) [] run after ↔
      (c ∈ separators ∧ run = [] ∧ after = c :: cs) ∨
      (c ∉ separators ∧ ∃ rest, run = c :: rest ∧ IsRun cs [] rest after) := by
  constructor
  · intro h
    cases run with
    | nil =>
      obtain rfl : after = c :: cs := by simpa using h.text.symm
      exact .inl ⟨h.closes c rfl, rfl, rfl⟩
    | cons d rest =>
      obtain ⟨rfl, htext⟩ : c = d ∧ cs = rest ++ after := by simpa using h.text
      have hfree := List.forall_mem_cons.1 h.free
      exact .inr ⟨hfree.1, rest, rfl, ⟨by simpa using htext, hfree.2, by simp, h.closes⟩⟩
  · rintro (⟨hc, rfl, rfl⟩ | ⟨hc, rest, rfl, h⟩)
    · exact ⟨rfl, by simp, by simp, by simpa using hc⟩
    · exact ⟨by simpa using h.text, List.forall_mem_cons.2 ⟨hc, h.free⟩, by simp, h.closes⟩

/-! ### The runs, each at its place -/

/-- A run at its place, with one more character before it. -/
def further (c : Char) (place : List Char × List Char) : List Char × List Char :=
  (c :: place.1, place.2)

/-- **The runs of a text**, each with the characters before it. -/
def runPlaces : List Char → List (List Char × List Char)
  | [] => [([], [])]
  | c :: cs =>
    if isSeparator c then ([], []) :: (runPlaces cs).map (further c)
    else ((runPlaces cs).map (further c)).modifyHead fun place => ([], c :: place.2)

@[simp] theorem nil_mem_map_further {places : List (List Char × List Char)} :
    ([], run) ∉ places.map (further c) := by
  simp [further]

@[simp] theorem cons_mem_map_further {c' : Char} {places : List (List Char × List Char)} :
    (c' :: before, run) ∈ places.map (further c) ↔ c' = c ∧ (before, run) ∈ places := by
  simp [further, eq_comm, and_comm]

theorem runPlaces_cons_of_mem (hc : c ∈ separators) :
    runPlaces (c :: cs) = ([], []) :: (runPlaces cs).map (further c) := by
  simp [runPlaces, hc]

/-- The list is never empty: nothing is before its first run, and a character that is no
separator lengthens that one. -/
theorem runPlaces_cons_of_notMem (hc : c ∉ separators) (cs : List Char) :
    ∃ run later, runPlaces cs = ([], run) :: later ∧
      runPlaces (c :: cs) = ([], c :: run) :: later.map (further c) := by
  have hfirst : ∃ run later, runPlaces cs = ([], run) :: later := by
    induction cs with
    | nil => exact ⟨_, _, rfl⟩
    | cons d ds ih =>
      obtain ⟨run, later, hplaces⟩ := ih
      by_cases hd : d ∈ separators <;> simp [runPlaces, hd, hplaces]
  obtain ⟨run, later, hplaces⟩ := hfirst
  exact ⟨run, later, hplaces, by simp [runPlaces, hc, hplaces, further]⟩

theorem map_snd_runPlaces (s : List Char) : (runPlaces s).map Prod.snd = splitRuns s := by
  have hfurther : ∀ c, Prod.snd ∘ further c = Prod.snd := fun c => rfl
  induction s with
  | nil => rfl
  | cons c cs ih =>
    rw [splitRuns_cons, ← ih]
    by_cases hc : c ∈ separators
    · simp [runPlaces_cons_of_mem hc, hc, hfurther]
    · obtain ⟨run, later, hplaces, hcons⟩ := runPlaces_cons_of_notMem hc cs
      simp [hcons, hplaces, hc, hfurther]

/-- The first place is nearer to the start of the text than the second. -/
def Precedes (first second : List Char × List Char) : Prop :=
  first.1.length < second.1.length

theorem pairwise_map_further {places : List (List Char × List Char)}
    (h : places.Pairwise Precedes) :
    (([], run) :: places.map (further c)).Pairwise Precedes := by
  refine List.Pairwise.cons ?_ (h.map _ fun _ _ hlt => Nat.succ_lt_succ hlt)
  rw [List.forall_mem_map]
  exact fun place _ => Nat.succ_pos place.1.length

/-- **The runs are listed in the order in which they stand.** -/
theorem pairwise_runPlaces (s : List Char) : (runPlaces s).Pairwise Precedes := by
  induction s with
  | nil => simp [runPlaces]
  | cons c cs ih =>
    by_cases hc : c ∈ separators
    · rw [runPlaces_cons_of_mem hc]
      exact pairwise_map_further ih
    · obtain ⟨run, later, hplaces, hcons⟩ := runPlaces_cons_of_notMem hc cs
      rw [hplaces] at ih
      rw [hcons]
      exact pairwise_map_further ih.of_cons

/-- **Exactly the runs of the text are listed.** -/
theorem mem_runPlaces {s : List Char} :
    (before, run) ∈ runPlaces s ↔ ∃ after, IsRun s before run after := by
  induction s generalizing before run with
  | nil => simp [runPlaces, isRun_nil]
  | cons c cs ih =>
    by_cases hc : c ∈ separators
    · rw [runPlaces_cons_of_mem hc]
      cases before with
      | nil => simp [isRun_nil_cons, hc]
      | cons c' before => simp [isRun_cons_cons, hc, ih]
    · obtain ⟨first, later, hplaces, hcons⟩ := runPlaces_cons_of_notMem hc cs
      -- What is listed after the first run is not at the start, so the first run is the only
      -- one that the new character can belong to.
      have hlater : ∀ place ∈ later, place.1 ≠ [] := by
        have hsorted := pairwise_runPlaces cs
        rw [hplaces, List.pairwise_cons] at hsorted
        exact fun place hmem => List.length_pos_iff.1 (hsorted.1 place hmem)
      rw [hcons]
      cases before with
      | nil =>
        have hnone (rest : List Char) : ([], rest) ∉ later := fun hmem => hlater _ hmem rfl
        have hrest (rest : List Char) : rest = first ↔ ∃ after, IsRun cs [] rest after := by
          rw [← ih, hplaces]
          simp [hnone]
        have hcons_run : (∃ after, IsRun (c :: cs) [] run after) ↔
            ∃ rest, run = c :: rest ∧ ∃ after, IsRun cs [] rest after := by
          simp only [isRun_nil_cons, hc, false_and, false_or, not_false_iff, true_and]
          rw [exists_comm]
          simp only [exists_and_left]
        simp [hcons_run, ← hrest]
      | cons c' before =>
        have hmem : (before, run) ∈ later ↔ (before, run) ∈ runPlaces cs ∧ before ≠ [] := by
          rw [hplaces, List.mem_cons, Prod.mk.injEq]
          constructor
          · exact fun hmem => ⟨.inr hmem, hlater _ hmem⟩
          · rintro ⟨⟨hnil, -⟩ | hmem, hne⟩
            · exact absurd hnil hne
            · exact hmem
        simp [isRun_cons_cons, hc, hmem, ih]

/-- A run between separators has none inside. -/
theorem notMem_separators_of_mem_splitRuns {s : List Char} (h : run ∈ splitRuns s) :
    ∀ c ∈ run, c ∉ separators := by
  rw [← map_snd_runPlaces, List.mem_map] at h
  obtain ⟨⟨before, _⟩, hplace, rfl⟩ := h
  obtain ⟨after, hrun⟩ := mem_runPlaces.1 hplace
  exact hrun.free

end Blueprint
