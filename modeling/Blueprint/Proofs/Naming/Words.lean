import Blueprint.Proofs.Naming.Runs

/-!
# Words and where they are cut

The words of a name are its characters again, less the separators. In a name with
separators they are the runs between them. A name without is cut in front of a capital
that follows a small letter or a digit, and in front of the last capital of several when
a small letter follows it (`Blueprint.IsBoundary`); nowhere else.

Words are found from the back: the words of what follows are there when a character is
put in front, and it either opens a word of its own or lengthens the first one
(`Blueprint.humps_cons_of_startsWord`, `Blueprint.humps_cons_of_not_startsWord`). Cuts and
boundaries move alike under both steps, so they agree everywhere
(`Blueprint.isCut_humps_iff`).

The words can be found from the front as well, with the word that has been begun as a
state and the character before looked up by its position
(`Blueprint.scanWords`). The position is looked up for a begun word only, so it is never
the one in front of the first character, and the words are the same
(`Blueprint.scanWords_eq_humps`).
-/

namespace Blueprint

/-! ### Boundaries and cuts -/

/-- **A boundary** of the text `s` in front of position `i`: a capital stands there, and
before it a small letter, a digit, or another capital if a small letter is next. -/
def IsBoundary (s : List Char) (i : Nat) : Prop :=
  ∃ before c, 0 < i ∧ s[i - 1]? = some before ∧ s[i]? = some c ∧ isUpper c ∧
    (isLower before ∨ before.isDigit ∨
      isUpper before ∧ ∃ next, s[i + 1]? = some next ∧ isLower next)

/-- **A cut** at position `i`: a word ends and another one starts after `i` characters. -/
def IsCut (words : List (List Char)) (i : Nat) : Prop :=
  ∃ left right, words = left ++ right ∧ left ≠ [] ∧ right ≠ [] ∧ left.flatten.length = i

variable {before c : Char} {s cs word : List Char} {words : List (List Char)} {i : Nat}

theorem IsBoundary.pos_and_lt (h : IsBoundary s i) : 0 < i ∧ i < s.length := by
  obtain ⟨_, _, hpos, -, hc, -⟩ := h
  exact ⟨hpos, (List.getElem?_eq_some_iff.1 hc).1⟩

theorem isBoundary_one : IsBoundary (before :: c :: cs) 1 ↔ startsWord before c cs := by
  cases cs <;> simp [IsBoundary, startsWord, or_assoc]

theorem isBoundary_cons_add_two : IsBoundary (before :: cs) (i + 2) ↔ IsBoundary cs (i + 1) := by
  simp [IsBoundary]

/-- The boundary in front of the second character, and the later ones. -/
theorem isBoundary_cons_cons :
    IsBoundary (before :: c :: cs) i ↔
      (startsWord before c cs ∧ i = 1) ∨ ∃ j, IsBoundary (c :: cs) j ∧ i = j + 1 := by
  have hpos {s : List Char} : ¬ IsBoundary s 0 := fun h => absurd h.pos_and_lt.1 (Nat.lt_irrefl 0)
  match i with
  | 0 => simp [hpos]
  | 1 => simp [isBoundary_one, hpos]
  | i + 2 => simp [isBoundary_cons_add_two]

theorem not_isCut_nil : ¬ IsCut [] i := by
  rintro ⟨left, right, hwords, hleft, -⟩
  exact hleft (List.append_eq_nil_iff.1 hwords.symm).1

/-- The cut after the first word, and the later ones. -/
theorem isCut_cons :
    IsCut (word :: words) i ↔
      (words ≠ [] ∧ i = word.length) ∨ ∃ j, IsCut words j ∧ i = word.length + j := by
  constructor
  · rintro ⟨left, right, hwords, hleft, hright, rfl⟩
    obtain ⟨first, left, rfl⟩ := List.exists_cons_of_ne_nil hleft
    obtain ⟨rfl, rfl⟩ : word = first ∧ words = left ++ right := by simpa using hwords
    by_cases hnil : left = []
    · subst hnil
      exact .inl ⟨hright, by simp⟩
    · exact .inr ⟨_, ⟨left, right, rfl, hnil, hright, rfl⟩, by simp⟩
  · rintro (⟨hne, rfl⟩ | ⟨_, ⟨left, right, rfl, hleft, hright, rfl⟩, rfl⟩)
    · exact ⟨[word], words, rfl, by simp, hne, by simp⟩
    · exact ⟨word :: left, right, rfl, by simp, hright, by simp⟩

/-- A character in front of the first word moves every cut by one. -/
theorem isCut_modifyHead :
    IsCut (words.modifyHead (c :: ·)) i ↔ ∃ j, IsCut words j ∧ i = j + 1 := by
  cases words with
  | nil => simp [not_isCut_nil]
  | cons word words =>
    simp only [List.modifyHead_cons, isCut_cons, List.length_cons]
    constructor
    · rintro (⟨hne, rfl⟩ | ⟨j, hj, rfl⟩)
      · exact ⟨_, .inl ⟨hne, rfl⟩, rfl⟩
      · exact ⟨_, .inr ⟨j, hj, rfl⟩, by omega⟩
    · rintro ⟨_, ⟨hne, rfl⟩ | ⟨j, hj, rfl⟩, rfl⟩
      · exact .inl ⟨hne, rfl⟩
      · exact .inr ⟨j, hj, by omega⟩

/-! ### One more character in front -/

theorem humps_ne_nil (c : Char) (cs : List Char) : humps (c :: cs) ≠ [] := by
  simp [humps]

theorem humps_singleton (c : Char) : humps [c] = [[c]] := rfl

theorem humps_cons_of_startsWord (h : startsWord before c cs) :
    humps (before :: c :: cs) = [before] :: humps (c :: cs) := by
  simp [humps, splitHumps, h]

theorem humps_cons_of_not_startsWord (h : ¬ startsWord before c cs) :
    humps (before :: c :: cs) = (humps (c :: cs)).modifyHead (before :: ·) := by
  simp [humps, splitHumps, h]

/-- **Cutting loses nothing.** -/
theorem flatten_humps : ∀ s : List Char, (humps s).flatten = s
  | [] => rfl
  | [_] => rfl
  | before :: c :: cs => by
    have ih := flatten_humps (c :: cs)
    by_cases hc : startsWord before c cs
    · rw [humps_cons_of_startsWord hc, List.flatten_cons, ih, List.singleton_append]
    · rw [humps_cons_of_not_startsWord hc, flatten_modifyHead (humps_ne_nil c cs), ih]

theorem ne_nil_of_mem_humps : ∀ {s : List Char}, ∀ word ∈ humps s, word ≠ []
  | [] => by simp [humps]
  | [_] => by simp [humps_singleton]
  | before :: c :: cs => by
    have ih := ne_nil_of_mem_humps (s := c :: cs)
    by_cases hc : startsWord before c cs
    · rw [humps_cons_of_startsWord hc]
      exact List.forall_mem_cons.2 ⟨List.cons_ne_nil _ _, ih⟩
    · obtain ⟨word, words, hwords⟩ := List.exists_cons_of_ne_nil (humps_ne_nil c cs)
      rw [hwords] at ih
      rw [humps_cons_of_not_startsWord hc, hwords]
      exact List.forall_mem_cons.2 ⟨List.cons_ne_nil _ _, (List.forall_mem_cons.1 ih).2⟩

/-- **The cuts are the boundaries.** -/
theorem isCut_humps_iff : ∀ {s : List Char} {i : Nat}, IsCut (humps s) i ↔ IsBoundary s i
  | [], i => iff_of_false not_isCut_nil fun h => absurd h.pos_and_lt.2 (Nat.not_lt_zero i)
  | [_], i => by
    refine iff_of_false ?_ fun h => ?_
    · simp [humps_singleton, isCut_cons, not_isCut_nil]
    · have := h.pos_and_lt
      rw [List.length_singleton] at this
      omega
  | before :: c :: cs, i => by
    have ih {j : Nat} := isCut_humps_iff (s := c :: cs) (i := j)
    rw [isBoundary_cons_cons]
    -- The new character moves what there is by one, on both sides; a word of its own adds the
    -- cut behind it, and only then is there a boundary there.
    by_cases hc : startsWord before c cs
    · rw [humps_cons_of_startsWord hc, isCut_cons]
      simp [hc, humps_ne_nil, ih, Nat.add_comm 1]
    · rw [humps_cons_of_not_startsWord hc, isCut_modifyHead]
      simp [hc, ih]

/-! ### Words from the front -/

/-- The character that stands before position `i`. -/
def charBefore? (s : List Char) : Nat → Option Char
  | 0 => none
  | i + 1 => s[i]?

/-- Reading the text `s` on from position `i`, with the word that has been begun and the
words before it. The character before a capital is looked up when a word has been begun;
if there is none at that position, there is no result. -/
def scanFrom (s : List Char) (i : Nat) (begun : List Char) (words : List (List Char)) :
    List Char → Option (List (List Char))
  | [] => some (if begun.isEmpty then words else words ++ [begun])
  | c :: rest =>
    if isUpper c && !begun.isEmpty then
      match charBefore? s i with
      | none => none
      | some before =>
        if isLower before || before.isDigit ||
            (isUpper before && (s[i + 1]?).any isLower) then
          scanFrom s (i + 1) [c] (words ++ [begun]) rest
        else scanFrom s (i + 1) (begun ++ [c]) words rest
    else scanFrom s (i + 1) (begun ++ [c]) words rest

/-- **The words of a text, read from the front.** -/
def scanWords (s : List Char) : Option (List (List Char)) :=
  scanFrom s 0 [] [] s

theorem modifyHead_nil_append (words : List (List Char)) :
    words.modifyHead ([] ++ ·) = words := by
  cases words <;> rfl

/-- **One step**, once a word has been begun: the look-up finds the character before. -/
theorem scanFrom_cons {seen begun rest : List Char} (hs : s = seen ++ before :: c :: rest)
    (hbegun : begun ≠ []) :
    scanFrom s (seen.length + 1) begun words (c :: rest) =
      if startsWord before c rest then
        scanFrom s (seen.length + 2) [c] (words ++ [begun]) rest
      else scanFrom s (seen.length + 2) (begun ++ [c]) words rest := by
  have hbefore : charBefore? s (seen.length + 1) = some before := by simp [charBefore?, hs]
  have hnext : s[seen.length + 1 + 1]? = rest.head? := by
    rw [hs, Nat.add_assoc, List.getElem?_append_right (by omega)]
    simp [List.head?_eq_getElem?]
  rw [scanFrom, hbefore, hnext]
  cases rest <;> by_cases hc : isUpper c <;> simp [startsWord, hc, hbegun]

/-- **A run of the reading.** The word that has been begun ends with the character before,
so it is what the first of the remaining words is missing in front. -/
theorem scanFrom_eq {seen begun rest : List Char} (hs : s = seen ++ before :: rest) :
    scanFrom s (seen.length + 1) (begun ++ [before]) words rest =
      some (words ++ (humps (before :: rest)).modifyHead (begun ++ ·)) := by
  induction rest generalizing seen begun before words with
  | nil => simp [scanFrom, humps_singleton]
  | cons c rest ih =>
    have hnext : s = (seen ++ [before]) ++ c :: rest := by simp [hs]
    have hstep (begun : List Char) (words : List (List Char)) :
        scanFrom s (seen.length + 2) (begun ++ [c]) words rest =
          some (words ++ (humps (c :: rest)).modifyHead (begun ++ ·)) := by
      simpa using ih hnext
    rw [scanFrom_cons hs (by simp)]
    -- At a cut, the word goes to the words before it and the next one begins with nothing else.
    by_cases hc : startsWord before c rest
    · rw [if_pos hc, humps_cons_of_startsWord hc, ← List.nil_append [c], hstep,
        modifyHead_nil_append]
      simp
    · rw [if_neg hc, humps_cons_of_not_startsWord hc, hstep, List.modifyHead_modifyHead]
      simp [Function.comp_def]

/-- **Reading from the front gives the words**: no look-up is in front of the text. -/
theorem scanWords_eq_humps (s : List Char) : scanWords s = some (humps s) := by
  cases s with
  | nil => rfl
  | cons c cs =>
    have hrest : scanFrom (c :: cs) 1 ([] ++ [c]) [] cs =
        some ([] ++ (humps (c :: cs)).modifyHead ([] ++ ·)) := scanFrom_eq (List.nil_append _).symm
    rw [modifyHead_nil_append] at hrest
    rw [scanWords, scanFrom]
    simpa using hrest

/-! ### The words of a name -/

theorem splitWords_of_separator (h : ∃ c ∈ s, c ∈ separators) :
    splitWords s = (splitRuns s).filter fun word => !word.isEmpty := by
  rw [splitWords, if_pos (by simpa using h)]

theorem splitWords_of_no_separator (h : ∀ c ∈ s, c ∉ separators) : splitWords s = humps s := by
  rw [splitWords, if_neg (by simpa using h)]

/-- **A word is not empty and holds no separator.** -/
theorem mem_splitWords (h : word ∈ splitWords s) : word ≠ [] ∧ ∀ c ∈ word, c ∉ separators := by
  by_cases hs : ∃ c ∈ s, c ∈ separators
  · rw [splitWords_of_separator hs, List.mem_filter] at h
    exact ⟨by simpa using h.2, notMem_separators_of_mem_splitRuns h.1⟩
  · replace hs : ∀ c ∈ s, c ∉ separators := by simpa using hs
    rw [splitWords_of_no_separator hs] at h
    refine ⟨ne_nil_of_mem_humps word h, fun c hc => hs c ?_⟩
    rw [← flatten_humps s]
    exact List.mem_flatten_of_mem h hc

/-- **The words lose the separators and nothing else.** -/
theorem flatten_splitWords (s : List Char) :
    (splitWords s).flatten = s.filter (fun c => c ∉ separators) := by
  by_cases hs : ∃ c ∈ s, c ∈ separators
  · rw [splitWords_of_separator hs, List.flatten_filter_not_isEmpty, flatten_splitRuns]
  · replace hs : ∀ c ∈ s, c ∉ separators := by simpa using hs
    rw [splitWords_of_no_separator hs, flatten_humps]
    exact (List.filter_eq_self.2 fun c hc => by simpa using hs c hc).symm

/-- **The words of a name with separators are its runs**, in their order; the empty ones
are no words. -/
theorem exists_places_of_separator (h : ∃ c ∈ s, c ∈ separators) :
    ∃ places : List (List Char × List Char), places.map Prod.snd = splitWords s ∧
      places.Pairwise Precedes ∧ ∀ before run,
        (before, run) ∈ places ↔ run ≠ [] ∧ ∃ after, IsRun s before run after := by
  refine ⟨(runPlaces s).filter fun place => !place.2.isEmpty, ?_,
    (pairwise_runPlaces s).filter _, fun before run => ?_⟩
  · rw [splitWords_of_separator h, ← map_snd_runPlaces, List.filter_map]
    rfl
  · rw [List.mem_filter, mem_runPlaces, and_comm]
    simp

/-- **Where a name is cut into words.** No word is empty or holds a separator, and the
words one after the other are the name less its separators. With separators in the name,
the words are the runs between them, in order. Without, the name is cut at its boundaries
and nowhere else, and reading it from the front never looks up a character in front of it. -/
theorem splitWords_cuts (s : List Char) :
    (∀ word ∈ splitWords s, word ≠ [] ∧ ∀ c ∈ word, c ∉ separators) ∧
    (splitWords s).flatten = s.filter (fun c => c ∉ separators) ∧
    ((∃ c ∈ s, c ∈ separators) →
      ∃ places : List (List Char × List Char), places.map Prod.snd = splitWords s ∧
        places.Pairwise Precedes ∧ ∀ before run,
          (before, run) ∈ places ↔ run ≠ [] ∧ ∃ after, IsRun s before run after) ∧
    ((∀ c ∈ s, c ∉ separators) →
      (∀ i, IsCut (splitWords s) i ↔ IsBoundary s i) ∧ scanWords s = some (splitWords s)) := by
  refine ⟨fun word => mem_splitWords, flatten_splitWords s, exists_places_of_separator,
    fun hs => ?_⟩
  rw [splitWords_of_no_separator hs]
  exact ⟨fun i => isCut_humps_iff, scanWords_eq_humps s⟩

/-- A separator leaves the capitals of `LineItem` alone; a name without one is cut at the last
of several capitals and after a digit, not before it. -/
theorem splitWords_cuts_server :
    (∃ c ∈ "Order-LineItem".toList, c ∈ separators) ∧
    (∃ places : List (List Char × List Char),
      places.map Prod.snd = ["Order".toList, "LineItem".toList] ∧
        places.Pairwise Precedes ∧ ∀ before run, (before, run) ∈ places ↔
          run ≠ [] ∧ ∃ after, IsRun "Order-LineItem".toList before run after) ∧
    (∀ c ∈ "HTTPServer2Go".toList, c ∉ separators) ∧
    (∀ i, IsCut ["HTTP".toList, "Server2".toList, "Go".toList] i ↔
      IsBoundary "HTTPServer2Go".toList i) ∧
    scanWords "HTTPServer2Go".toList =
      some ["HTTP".toList, "Server2".toList, "Go".toList] := by
  have hruns : splitWords "Order-LineItem".toList = ["Order".toList, "LineItem".toList] := by
    decide
  have hhumps : splitWords "HTTPServer2Go".toList =
      ["HTTP".toList, "Server2".toList, "Go".toList] := by
    decide
  have hseparator : ∃ c ∈ "Order-LineItem".toList, c ∈ separators := by simp [separators]
  have hnone : ∀ c ∈ "HTTPServer2Go".toList, c ∉ separators := by simp [separators]
  refine ⟨hseparator, ?_, hnone, ?_⟩
  · rw [← hruns]
    exact (splitWords_cuts "Order-LineItem".toList).2.2.1 hseparator
  · rw [← hhumps]
    exact (splitWords_cuts "HTTPServer2Go".toList).2.2.2 hnone

end Blueprint
