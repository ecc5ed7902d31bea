import Blueprint.Proofs.Naming.Words

/-!
# Joining words and splitting them again

A name made of words may be split again, and what comes back depends on what stands
between them.

* A separator between the words: they come back as they are, if there are several of them
  (`Blueprint.splitWords_joinWords`). A word that is alone has no separator beside it and
  is looked at for capitals like any name.
* Something else, or nothing: the text is cut at its boundaries. Joining the parts gives
  the text back exactly when there is none (`Blueprint.joinWords_humps_eq_iff`), since
  whatever is put at a cut makes the text longer.
-/

namespace Blueprint

variable {c separator : Char} {s word rest : List Char} {words : List (List Char)} {i : Nat}

/-! ### Joined words -/

@[simp] theorem joinWords_nil (separator : List Char) : joinWords separator [] = [] :=
  List.intercalate_nil

@[simp] theorem joinWords_singleton (separator : List Char) (word : List Char) :
    joinWords separator [word] = word :=
  List.intercalate_singleton

theorem joinWords_cons (h : words ≠ []) :
    joinWords [separator] (word :: words) = word ++ separator :: joinWords [separator] words := by
  rw [joinWords, List.intercalate_cons_of_ne_nil h, List.append_assoc]
  rfl

theorem mem_joinWords (h : c ∈ joinWords [separator] words) :
    c = separator ∨ ∃ word ∈ words, c ∈ word := by
  induction words with
  | nil => simp at h
  | cons word words ih =>
    by_cases hwords : words = []
    · subst hwords
      exact .inr ⟨word, by simp, by simpa using h⟩
    · rw [joinWords_cons hwords, List.mem_append, List.mem_cons] at h
      rcases h with hword | rfl | hrest
      · exact .inr ⟨word, List.mem_cons_self, hword⟩
      · exact .inl rfl
      · obtain rfl | ⟨later, hlater, hmem⟩ := ih hrest
        · exact .inl rfl
        · exact .inr ⟨later, List.mem_cons_of_mem _ hlater, hmem⟩

/-- Respelling the words one character at a time respells the name. -/
theorem map_joinWords (f : Char → Char) :
    (joinWords [separator] words).map f = joinWords [f separator] (words.map (List.map f)) := by
  induction words with
  | nil => simp
  | cons word words ih =>
    by_cases hwords : words = []
    · simp [hwords]
    · rw [List.map_cons, joinWords_cons hwords, joinWords_cons (by simpa using hwords)]
      simp [ih]

/-- There is one character between any two words. -/
theorem length_joinWords (separator : Char) (words : List (List Char)) :
    (joinWords [separator] words).length = words.flatten.length + (words.length - 1) := by
  induction words with
  | nil => rfl
  | cons word words ih =>
    by_cases hwords : words = []
    · simp [hwords]
    · have hpos := List.length_pos_iff.2 hwords
      rw [joinWords_cons hwords, List.flatten_cons, List.length_append, List.length_append,
        List.length_cons, List.length_cons, ih]
      omega

theorem joinWords_eq_flatten_iff (separator : Char) :
    joinWords [separator] words = words.flatten ↔ words.length ≤ 1 := by
  constructor
  · intro h
    have hlength := length_joinWords separator words
    rw [h] at hlength
    omega
  · intro h
    match words, h with
    | [], _ => rfl
    | [word], _ => simp

/-! ### A separator between the words -/

theorem splitRuns_of_free (h : ∀ c ∈ word, c ∉ separators) : splitRuns word = [word] := by
  induction word with
  | nil => rfl
  | cons c cs ih =>
    obtain ⟨hc, hcs⟩ := List.forall_mem_cons.1 h
    rw [splitRuns_cons, ih hcs]
    simp [hc]

/-- The first run ends at the first separator. -/
theorem splitRuns_append_cons (h : ∀ c ∈ word, c ∉ separators)
    (hseparator : separator ∈ separators) :
    splitRuns (word ++ separator :: rest) = word :: splitRuns rest := by
  induction word with
  | nil => simp [splitRuns_cons, hseparator]
  | cons c cs ih =>
    obtain ⟨hc, hcs⟩ := List.forall_mem_cons.1 h
    rw [List.cons_append, splitRuns_cons, ih hcs]
    simp [hc]

/-- **Runs come back from between separators**, if there are any. -/
theorem splitRuns_joinWords (hseparator : separator ∈ separators) (hne : words ≠ [])
    (hfree : ∀ word ∈ words, ∀ c ∈ word, c ∉ separators) :
    splitRuns (joinWords [separator] words) = words := by
  induction words with
  | nil => exact absurd rfl hne
  | cons word words ih =>
    obtain ⟨hword, hrest⟩ := List.forall_mem_cons.1 hfree
    by_cases hwords : words = []
    · rw [hwords, joinWords_singleton, splitRuns_of_free hword]
    · rw [joinWords_cons hwords, splitRuns_append_cons hword hseparator, ih hwords hrest]

/-- **Words come back from between separators**, but for a word that is alone and has a
boundary inside. -/
theorem splitWords_joinWords (hseparator : separator ∈ separators)
    (hwords : ∀ word ∈ words, word ≠ [] ∧ ∀ c ∈ word, c ∉ separators)
    (halone : ∀ word, words = [word] → humps word = [word]) :
    splitWords (joinWords [separator] words) = words := by
  match words with
  | [] => rfl
  | [word] =>
    rw [joinWords_singleton, splitWords_of_no_separator (hwords word List.mem_cons_self).2]
    exact halone word rfl
  | first :: second :: rest =>
    have hmem : separator ∈ joinWords [separator] (first :: second :: rest) := by
      rw [joinWords_cons (List.cons_ne_nil _ _)]
      simp
    rw [splitWords_of_separator ⟨separator, hmem, hseparator⟩,
      splitRuns_joinWords hseparator (List.cons_ne_nil _ _) fun word h => (hwords word h).2,
      List.filter_eq_self]
    intro word h
    simpa using (hwords word h).1

/-! ### Nothing between the words -/

theorem forall_not_isCut_iff : (∀ i, ¬ IsCut words i) ↔ words.length ≤ 1 := by
  constructor
  · intro h
    match words with
    | [] => simp
    | [_] => simp
    | word :: next :: rest =>
      exact absurd (isCut_cons.2 (.inl ⟨List.cons_ne_nil next rest, rfl⟩)) (h word.length)
  · intro h i
    match words, h with
    | [], _ => exact not_isCut_nil
    | [word], _ => simp [isCut_cons, not_isCut_nil]

theorem forall_not_isBoundary_iff : (∀ i, ¬ IsBoundary s i) ↔ (humps s).length ≤ 1 := by
  rw [← forall_not_isCut_iff]
  simp only [isCut_humps_iff]

/-- A text without boundaries is one word. -/
theorem humps_eq_singleton (hne : s ≠ []) (h : ∀ i, ¬ IsBoundary s i) : humps s = [s] := by
  have hlength := forall_not_isBoundary_iff.1 h
  have hflatten := flatten_humps s
  match hwords : humps s, hlength with
  | [], _ => exact absurd (by simpa [hwords] using hflatten) hne.symm
  | [word], _ =>
    rw [hwords] at hflatten
    simpa using hflatten

/-- **What is put at the cuts of a text shows**, unless there are none. -/
theorem joinWords_humps_eq_iff :
    joinWords [separator] (humps s) = s ↔ ∀ i, ¬ IsBoundary s i := by
  rw [forall_not_isBoundary_iff, ← joinWords_eq_flatten_iff separator, flatten_humps]

/-- No boundary without a capital. -/
theorem not_isBoundary_of_forall (h : ∀ c ∈ s, isUpper c = false) : ¬ IsBoundary s i := by
  rintro ⟨_, c, -, -, hc, hupper, -⟩
  rw [h c (List.mem_of_getElem? hc)] at hupper
  exact Bool.false_ne_true hupper

/-- Spelling the parts of a text that is spelled so already changes none of them. -/
theorem map_splitWords_of_fixed {f : Char → Char} (hfree : ∀ c ∈ s, c ∉ separators)
    (hfixed : ∀ c ∈ s, f c = c) : (splitWords s).map (List.map f) = humps s := by
  rw [splitWords_of_no_separator hfree]
  refine (List.map_congr_left fun word hword => ?_).trans (List.map_id _)
  refine (List.map_congr_left fun c hc => ?_).trans (List.map_id _)
  refine hfixed c ?_
  rw [← flatten_humps s]
  exact List.mem_flatten_of_mem hword hc

end Blueprint
