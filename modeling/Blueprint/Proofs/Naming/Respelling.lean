import Blueprint.Proofs.Naming.Ascii
import Blueprint.Proofs.Naming.Joining
import Mathlib.Data.List.Chain

/-!
# Spelling a name a second time

A name in a style is a name again. Spelled a second time, it is first split into words,
and the question is which words are found.

* A hyphen separates words, so those of a name in `kebab` style are the words of the name
  in small letters (`Blueprint.splitWords_kebab`). Nothing but the case is lost, and a
  second style gives what it gives for the name itself.
* An underscore separates nothing, so a name in `snake` style is cut at its boundaries; it
  has no capital, and so it has none (`Blueprint.kebab_normal_form`).
* In capitals, a letter is at a boundary exactly when a digit stands before it
  (`Blueprint.isBoundary_capitals`). That is where a name in `upperSnake` style is cut,
  and a name in `upperKebab` style that has no hyphen; otherwise the second spelling is
  the first one (`Blueprint.upper_twice_iff`).
-/

namespace Blueprint

variable {c separator : Char} {s word : List Char} {words : List (List Char)} {i : Nat}

theorem toList_apply (style : NamingStyle) (name : String) :
    (style.apply name).toList = style.join (splitWords name.toList) := by
  rw [NamingStyle.apply, String.toList_ofList]

/-- A word respelled one character at a time is still a word. -/
theorem map_mem_splitWords {f : Char → Char} (hf : ∀ c, f c ∈ separators ↔ c ∈ separators)
    (hword : word ∈ splitWords s) : word.map f ≠ [] ∧ ∀ c ∈ word.map f, c ∉ separators := by
  obtain ⟨hne, hfree⟩ := mem_splitWords hword
  refine ⟨by simpa using hne, List.forall_mem_map.2 fun c hc => ?_⟩
  rw [hf]
  exact hfree c hc

/-! ### Words between hyphens -/

theorem isUpper_of_mem_small (h : IsAscii word) : ∀ c ∈ small word, isUpper c = false := by
  intro c hc
  rw [(isPlain (h.small c hc)).isUpper]
  obtain ⟨d, -, rfl⟩ := List.mem_map.1 hc
  exact (caseLaws d).isUpper_toLower

/-- **A hyphenated name has the words of the name**, in small letters. -/
theorem splitWords_kebab (hs : IsAscii s) :
    splitWords (NamingStyle.kebab.join (splitWords s)) = (splitWords s).map small := by
  have hwords : ∀ word ∈ splitWords s, IsAscii word := fun word h => hs.of_mem_splitWords h
  have hsmall {word : List Char} (h : word ∈ splitWords s) :
      small word ≠ [] ∧ ∀ c ∈ small word, c ∉ separators :=
    map_mem_splitWords (fun c => toLower_mem_separators) h
  rw [NamingStyle.join, map_lowerWord hwords]
  refine splitWords_joinWords (by decide) (List.forall_mem_map.2 fun word h => hsmall h)
    fun alone halone => ?_
  obtain ⟨word, hword, rfl⟩ : ∃ word ∈ splitWords s, small word = alone := by
    rw [← List.mem_map, halone]
    exact List.mem_singleton_self alone
  exact humps_eq_singleton (hsmall hword).1
    fun i => not_isBoundary_of_forall (isUpper_of_mem_small (hwords word hword))

/-! ### Words between underscores -/

/-- The words of a name with an underscore between any two of them. -/
def underscored (s : List Char) : List Char := joinWords ['_'] (splitWords s)

theorem IsAscii.underscored (hs : IsAscii s) : IsAscii (underscored s) := by
  intro c hc
  obtain rfl | ⟨word, hword, hmem⟩ := mem_joinWords hc
  · decide
  · exact hs.of_mem_splitWords hword c hmem

theorem notMem_separators_of_mem_underscored (h : c ∈ underscored s) : c ∉ separators := by
  obtain rfl | ⟨word, hword, hmem⟩ := mem_joinWords h
  · decide
  · exact (mem_splitWords hword).2 c hmem

theorem join_snake (hs : IsAscii s) :
    NamingStyle.snake.join (splitWords s) = small (underscored s) := by
  rw [NamingStyle.join, map_lowerWord fun word h => hs.of_mem_splitWords h, small, underscored,
    map_joinWords]
  rfl

theorem join_upperSnake (hs : IsAscii s) :
    NamingStyle.upperSnake.join (splitWords s) = capitals (underscored s) := by
  rw [NamingStyle.join, map_upperWord fun word h => hs.of_mem_splitWords h, capitals,
    underscored, map_joinWords]
  rfl

/-- **A text in one case is joined to itself** exactly when it has no boundary, provided
that it has no separator. -/
theorem joinWords_respelled_iff {f : Char → Char}
    (hsame : ∀ c, f c ∈ separators ↔ c ∈ separators) (hagain : ∀ c, f (f c) = f c)
    (hfree : ∀ c ∈ s, c ∉ separators) :
    joinWords [separator] ((splitWords (s.map f)).map (List.map f)) = s.map f ↔
      ∀ i, ¬ IsBoundary (s.map f) i := by
  have hfree' : ∀ c ∈ s.map f, c ∉ separators :=
    List.forall_mem_map.2 fun c hc => (hsame c).not.2 (hfree c hc)
  have hfixed : ∀ c ∈ s.map f, f c = c := List.forall_mem_map.2 fun c _ => hagain c
  rw [map_splitWords_of_fixed hfree' hfixed, joinWords_humps_eq_iff]

/-- **The hyphenated name stands for the name.** It has the same words in small letters,
and every style makes of it what it makes of the name. With underscores, which separate
nothing, the style itself changes nothing a second time. -/
theorem kebab_normal_form {name : String} (hname : IsAscii name.toList) :
    splitWords (NamingStyle.kebab.apply name).toList = (splitWords name.toList).map small ∧
    (∀ style : NamingStyle, style.apply (NamingStyle.kebab.apply name) = style.apply name) ∧
    NamingStyle.snake.apply (NamingStyle.snake.apply name) = NamingStyle.snake.apply name := by
  have hkebab : splitWords (NamingStyle.kebab.apply name).toList =
      (splitWords name.toList).map small := by
    rw [toList_apply, splitWords_kebab hname]
  refine ⟨hkebab, fun style => ?_, ?_⟩
  · have hwords : ∀ word ∈ splitWords name.toList, IsAscii word :=
      fun word h => hname.of_mem_splitWords h
    rw [NamingStyle.apply, hkebab, style.join_small hwords, NamingStyle.apply]
  · have hascii := hname.underscored
    have hsnake : (NamingStyle.snake.apply name).toList = small (underscored name.toList) := by
      rw [toList_apply, join_snake hname]
    rw [← String.toList_inj, toList_apply, hsnake, NamingStyle.join,
      map_lowerWord fun word h => hascii.small.of_mem_splitWords h]
    exact (joinWords_respelled_iff (fun c => toLower_mem_separators) toLower_toLower
      fun c hc => notMem_separators_of_mem_underscored hc).2
      fun i => not_isBoundary_of_forall (isUpper_of_mem_small hascii)

/-- `HTTPServer_2go`, whose words have no separator between them, and what its hyphenated form
is made into. -/
theorem kebab_normal_form_httpServer :
    IsAscii "HTTPServer_2go".toList ∧
    NamingStyle.kebab.apply "HTTPServer_2go" = "http-server_2go" ∧
    splitWords "http-server_2go".toList = ["http".toList, "server_2go".toList] ∧
    (∀ style : NamingStyle, style.apply "http-server_2go" = style.apply "HTTPServer_2go") ∧
    NamingStyle.snake.apply "http_server_2go" = "http_server_2go" := by
  have hascii : IsAscii "HTTPServer_2go".toList := by simp [IsAscii]
  have hkebab : NamingStyle.kebab.apply "HTTPServer_2go" = "http-server_2go" := by decide
  have hsnake : NamingStyle.snake.apply "HTTPServer_2go" = "http_server_2go" := by decide
  have hwords : (splitWords "HTTPServer_2go".toList).map small =
      ["http".toList, "server_2go".toList] := by
    decide
  have hnormal := kebab_normal_form hascii
  rw [hkebab, hsnake, hwords] at hnormal
  exact ⟨hascii, hkebab, hnormal⟩

/-! ### Capitals -/

/-- **No letter stands right behind a digit.** -/
def NoLetterAfterDigit (word : List Char) : Prop :=
  word.IsChain fun before c => ¬ (before.isDigit ∧ c.isAlpha)

/-- **Boundaries in capitals**: no small letter is left, so only digits make them. -/
theorem isBoundary_capitals (h : IsAscii word) :
    IsBoundary (capitals word) (i + 1) ↔
      ∃ before c, word[i]? = some before ∧ word[i + 1]? = some c ∧
        before.isDigit ∧ c.isAlpha := by
  have hupper {c : Char} (hc : c ∈ word) : isUpper c.toUpper = c.isAlpha := by
    rw [(isPlain (h.capitals _ (List.mem_map_of_mem hc))).isUpper,
      (caseLaws c).isUpper_toUpper]
  have hlower {c : Char} (hc : c ∈ word) : isLower c.toUpper = false := by
    rw [(isPlain (h.capitals _ (List.mem_map_of_mem hc))).isLower,
      (caseLaws c).isLower_toUpper]
  constructor
  · rintro ⟨_, _, -, hbefore, hc, hcapital, hkind⟩
    rw [Nat.add_sub_cancel, capitals, List.getElem?_map] at hbefore
    rw [capitals, List.getElem?_map] at hc
    obtain ⟨before, hbefore', rfl⟩ := Option.map_eq_some_iff.1 hbefore
    obtain ⟨c, hc', rfl⟩ := Option.map_eq_some_iff.1 hc
    rw [hupper (List.mem_of_getElem? hc')] at hcapital
    refine ⟨before, c, hbefore', hc', ?_, hcapital⟩
    rcases hkind with hsmall | hdigit | ⟨-, next, hnext, hsmall⟩
    · rw [hlower (List.mem_of_getElem? hbefore')] at hsmall
      exact absurd hsmall Bool.false_ne_true
    · rwa [isDigit_toUpper] at hdigit
    · rw [capitals, List.getElem?_map] at hnext
      obtain ⟨next, hnext', rfl⟩ := Option.map_eq_some_iff.1 hnext
      rw [hlower (List.mem_of_getElem? hnext')] at hsmall
      exact absurd hsmall Bool.false_ne_true
  · rintro ⟨before, c, hbefore, hc, hdigit, hletter⟩
    refine ⟨before.toUpper, c.toUpper, Nat.succ_pos i, ?_, ?_, ?_, .inr (.inl ?_)⟩
    · simp [capitals, hbefore]
    · simp [capitals, hc]
    · rwa [hupper (List.mem_of_getElem? hc)]
    · rwa [isDigit_toUpper]

theorem forall_not_isBoundary_capitals_iff (h : IsAscii word) :
    (∀ i, ¬ IsBoundary (capitals word) i) ↔ NoLetterAfterDigit word := by
  rw [NoLetterAfterDigit, List.isChain_iff_getElem]
  constructor
  · rintro hnone i hi ⟨hdigit, hletter⟩
    exact hnone (i + 1) ((isBoundary_capitals h).2
      ⟨_, _, List.getElem?_eq_getElem _, List.getElem?_eq_getElem hi, hdigit, hletter⟩)
  · intro hchain i hboundary
    match i, hboundary with
    | 0, hboundary => exact absurd hboundary.pos_and_lt.1 (Nat.lt_irrefl 0)
    | i + 1, hboundary =>
      obtain ⟨before, c, hbefore, hc, hdigit, hletter⟩ := (isBoundary_capitals h).1 hboundary
      obtain ⟨_, rfl⟩ := List.getElem?_eq_some_iff.1 hbefore
      obtain ⟨hi, rfl⟩ := List.getElem?_eq_some_iff.1 hc
      exact hchain i hi ⟨hdigit, hletter⟩

/-- What stands between the words is neither a digit nor a letter. -/
theorem noLetterAfterDigit_joinWords (hdigit : separator.isDigit = false)
    (hletter : separator.isAlpha = false) :
    NoLetterAfterDigit (joinWords [separator] words) ↔
      ∀ word ∈ words, NoLetterAfterDigit word := by
  induction words with
  | nil => simp [NoLetterAfterDigit]
  | cons word words ih =>
    by_cases hwords : words = []
    · simp [hwords]
    · rw [joinWords_cons hwords, List.forall_mem_cons, ← ih, NoLetterAfterDigit,
        List.isChain_append, List.isChain_cons]
      simp [hdigit, hletter, NoLetterAfterDigit]

/-- Several words between hyphens come back in capitals. -/
theorem splitWords_upperKebab (hs : IsAscii s) (hmany : ¬ ∃ word, splitWords s = [word]) :
    splitWords (NamingStyle.upperKebab.join (splitWords s)) = (splitWords s).map capitals := by
  rw [NamingStyle.join, map_upperWord fun word h => hs.of_mem_splitWords h]
  refine splitWords_joinWords (by decide)
    (List.forall_mem_map.2 fun word h => map_mem_splitWords (fun c => toUpper_mem_separators) h)
    fun alone halone => absurd ?_ hmany
  obtain ⟨word, hword, -⟩ := List.map_eq_singleton_iff.1 halone
  exact ⟨word, hword⟩

theorem upperKebab_twice_iff (hs : IsAscii s) :
    NamingStyle.upperKebab.join (splitWords (NamingStyle.upperKebab.join (splitWords s))) =
        NamingStyle.upperKebab.join (splitWords s) ↔
      ∀ word, splitWords s = [word] → NoLetterAfterDigit word := by
  have hwords : ∀ word ∈ splitWords s, IsAscii word := fun word h => hs.of_mem_splitWords h
  by_cases halone : ∃ word, splitWords s = [word]
  · -- No hyphen is left to split at.
    obtain ⟨word, hword⟩ := halone
    have hmem : word ∈ splitWords s := by
      rw [hword]
      exact List.mem_singleton_self word
    have hascii := hwords word hmem
    have hjoin : NamingStyle.upperKebab.join (splitWords s) = capitals word := by
      rw [NamingStyle.join, map_upperWord hwords, hword, List.map_singleton, joinWords_singleton]
    rw [hjoin, NamingStyle.join, map_upperWord fun part h => hascii.capitals.of_mem_splitWords h]
    refine (joinWords_respelled_iff (fun c => toUpper_mem_separators) toUpper_toUpper
      (mem_splitWords hmem).2).trans ?_
    rw [← capitals, forall_not_isBoundary_capitals_iff hascii, hword]
    simp
  · refine iff_of_true ?_ fun word hword => absurd ⟨word, hword⟩ halone
    rw [splitWords_upperKebab hs halone, NamingStyle.join, NamingStyle.join, map_upperWord hwords,
      map_upperWord (List.forall_mem_map.2 fun word h => (hwords word h).capitals)]
    simp [Function.comp_def]

theorem upperSnake_twice_iff (hs : IsAscii s) :
    NamingStyle.upperSnake.join (splitWords (NamingStyle.upperSnake.join (splitWords s))) =
        NamingStyle.upperSnake.join (splitWords s) ↔
      ∀ word ∈ splitWords s, NoLetterAfterDigit word := by
  have hascii := hs.underscored
  rw [join_upperSnake hs, NamingStyle.join,
    map_upperWord fun word h => hascii.capitals.of_mem_splitWords h]
  refine (joinWords_respelled_iff (fun c => toUpper_mem_separators) toUpper_toUpper
    fun c hc => notMem_separators_of_mem_underscored hc).trans ?_
  rw [← capitals, forall_not_isBoundary_capitals_iff hascii, underscored,
    noLetterAfterDigit_joinWords (by decide) (by decide)]

/-- **When capitals are spelled again**, nothing changes exactly when no letter stands right
behind a digit: in the only word, if the words are hyphenated, and in any of them, if there
are underscores between them. -/
theorem upper_twice_iff {name : String} (hname : IsAscii name.toList) :
    (NamingStyle.upperKebab.apply (NamingStyle.upperKebab.apply name) =
        NamingStyle.upperKebab.apply name ↔
      ∀ word, splitWords name.toList = [word] → NoLetterAfterDigit word) ∧
    (NamingStyle.upperSnake.apply (NamingStyle.upperSnake.apply name) =
        NamingStyle.upperSnake.apply name ↔
      ∀ word ∈ splitWords name.toList, NoLetterAfterDigit word) := by
  rw [← upperKebab_twice_iff hname, ← upperSnake_twice_iff hname]
  simp only [← String.toList_inj, toList_apply, iff_self, and_self]

/-- A hyphen keeps the two words of `sha256sum-v2` apart; underscores do not, and the `S`
behind the `6` starts a word of its own. -/
theorem upper_twice_sha256sum :
    IsAscii "sha256sum-v2".toList ∧
    NamingStyle.upperKebab.apply (NamingStyle.upperKebab.apply "sha256sum-v2") =
      NamingStyle.upperKebab.apply "sha256sum-v2" ∧
    NamingStyle.upperSnake.apply (NamingStyle.upperSnake.apply "sha256sum-v2") ≠
      NamingStyle.upperSnake.apply "sha256sum-v2" := by
  have hascii : IsAscii "sha256sum-v2".toList := by simp [IsAscii]
  have hwords : splitWords "sha256sum-v2".toList = ["sha256sum".toList, "v2".toList] := by
    decide
  refine ⟨hascii, (upper_twice_iff hascii).1.2 fun word hword => ?_,
    (upper_twice_iff hascii).2.not.2 fun hnone => ?_⟩
  · rw [hwords] at hword
    exact absurd hword (by simp)
  · have hchain := hnone "sha256sum".toList (hwords ▸ List.mem_cons_self)
    simp [NoLetterAfterDigit] at hchain

/-- One word of capitals falls apart behind its digit. -/
theorem upper_twice_a1b :
    IsAscii "a1b".toList ∧
    NamingStyle.upperKebab.apply (NamingStyle.upperKebab.apply "a1b") ≠
      NamingStyle.upperKebab.apply "a1b" ∧
    NamingStyle.upperSnake.apply (NamingStyle.upperSnake.apply "a1b") ≠
      NamingStyle.upperSnake.apply "a1b" := by
  refine ⟨by simp [IsAscii], ?_, ?_⟩ <;> decide

end Blueprint
