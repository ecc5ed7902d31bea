import Blueprint.Proofs.Naming.Respelling

/-!
# Words without anything between them

In Pascal and camel case the words of a name stand side by side, and only the capitals
tell where they start. They can be read back when each word is a small letter followed by
one or more small letters and digits (`Blueprint.IsPlainWord`): spelled with a capital, it
is a **hump** (`Blueprint.IsHump`), a first character and a tail without capitals. Two
things have to be arranged for humps to come back from a text.

* **A hump is not cut inside**: its tail has no capital.
* **A hump is cut from the next one**: that one starts with a capital, and what stands
  before it is the end of a tail, a small letter or a digit. This is why the tail must not
  be empty: `C` and `D` side by side are one word `CD`.

The humps of a name in either style are its words but for the case, so every style makes of
them what it makes of the words (`Blueprint.camel_and_pascal_decoded`).
-/

namespace Blueprint

variable {c first : Char} {word tail rest : List Char} {words pieces : List (List Char)}

/-! ### Tails -/

/-- A small letter or a digit of ASCII. -/
def IsTailChar (c : Char) : Prop := c.isLower ∨ c.isDigit

instance : DecidablePred IsTailChar :=
  fun c => inferInstanceAs (Decidable (c.isLower ∨ c.isDigit))

theorem IsTailChar.toNat_lt (h : IsTailChar c) : c.toNat < 128 := by
  rcases h with h | h
  · exact toNat_lt_of_isLower h
  · rw [Char.isDigit_iff_toNat] at h
    exact lt_of_le_of_lt h.2 (by decide)

theorem IsTailChar.isUpper_eq_false (h : IsTailChar c) : c.isUpper = false :=
  forall_ascii (p := fun c => IsTailChar c → c.isUpper = false) (by decide +kernel) h.toNat_lt h

theorem IsTailChar.toLower_eq (h : IsTailChar c) : c.toLower = c :=
  toLower_eq_self (Bool.eq_false_iff.1 h.isUpper_eq_false)

theorem IsTailChar.notMem_separators (h : IsTailChar c) : c ∉ separators := by
  intro hc
  simp only [separators, List.mem_cons, List.not_mem_nil, or_false] at hc
  rcases hc with rfl | rfl | rfl | rfl <;> rcases h with h | h <;> exact absurd h (by decide)

/-! ### Humps -/

/-- **A hump**: a first character, and a tail of small letters and digits that is not
empty. -/
def IsHump : List Char → Prop
  | [] => False
  | _ :: tail => tail ≠ [] ∧ ∀ c ∈ tail, IsTailChar c

/-- The end of a tail is cut from the capital after it. -/
theorem humps_tailChar_cons (hc : IsTailChar c) (hrest : ∀ d ∈ rest.head?, isUpper d) :
    humps (c :: rest) = [c] :: humps rest := by
  cases rest with
  | nil => rfl
  | cons d ds =>
    have hupper : isUpper d := hrest d rfl
    have hopen : isLower c ∨ c.isDigit := by rwa [(isPlain hc.toNat_lt).isLower]
    refine humps_cons_of_startsWord ?_
    rcases hopen with h | h <;> simp [startsWord, hupper, h]

/-- **A hump in front of a capital is the first word.** -/
theorem humps_append (hne : tail ≠ []) (htail : ∀ c ∈ tail, IsTailChar c)
    (hrest : ∀ d ∈ rest.head?, isUpper d) :
    humps (first :: (tail ++ rest)) = (first :: tail) :: humps rest := by
  induction tail generalizing first with
  | nil => exact absurd rfl hne
  | cons c tail ih =>
    obtain ⟨hc, htail⟩ := List.forall_mem_cons.1 htail
    have hinside : ¬ startsWord first c (tail ++ rest) := by
      simp [startsWord, (isPlain hc.toNat_lt).isUpper, hc.isUpper_eq_false]
    have hfrom : humps (c :: (tail ++ rest)) = (c :: tail) :: humps rest := by
      by_cases hend : tail = []
      · rw [hend]
        exact humps_tailChar_cons hc hrest
      · exact ih hend htail
    rw [List.cons_append, humps_cons_of_not_startsWord hinside, hfrom]
    rfl

/-- **Humps side by side come back**, when all but the first start with a capital. -/
theorem humps_flatten (hpieces : ∀ piece ∈ pieces, IsHump piece)
    (hcapitals : ∀ piece ∈ pieces.tail, ∀ c ∈ piece.head?, isUpper c) :
    humps pieces.flatten = pieces := by
  induction pieces with
  | nil => rfl
  | cons piece pieces ih =>
    obtain ⟨hpiece, hrest⟩ := List.forall_mem_cons.1 hpieces
    have hnext : ∀ c ∈ pieces.flatten.head?, isUpper c := by
      match pieces, hrest, hcapitals with
      | [], _, _ => simp
      | (c :: cs) :: _, _, hcapitals => exact hcapitals (c :: cs) List.mem_cons_self
      | [] :: _, hrest, _ => exact (hrest [] List.mem_cons_self).elim
    match piece, hpiece with
    | first :: tail, ⟨hne, htail⟩ =>
      rw [List.flatten_cons, List.cons_append, humps_append hne htail hnext,
        ih hrest fun piece h => hcapitals piece (List.mem_of_mem_tail h)]

/-! ### Plain words -/

/-- **A plain word**: a small letter, then one or more small letters and digits of ASCII. -/
def IsPlainWord : List Char → Prop
  | [] => False
  | first :: tail => first.isLower ∧ tail ≠ [] ∧ ∀ c ∈ tail, IsTailChar c

instance : DecidablePred IsPlainWord
  | [] => inferInstanceAs (Decidable False)
  | first :: tail =>
    -- The characters of the tail are few; otherwise all characters there are would be tried.
    have : Decidable (∀ c ∈ tail, IsTailChar c) := List.decidableBAll IsTailChar tail
    inferInstanceAs (Decidable (first.isLower ∧ tail ≠ [] ∧ ∀ c ∈ tail, IsTailChar c))

namespace IsPlainWord

theorem isHump (h : IsPlainWord word) : IsHump word :=
  match word, h with
  | _ :: _, h => h.2

theorem isTailChar (h : IsPlainWord word) : ∀ c ∈ word, IsTailChar c :=
  match word, h with
  | _ :: _, ⟨hfirst, _, htail⟩ => List.forall_mem_cons.2 ⟨.inl hfirst, htail⟩

theorem isAscii (h : IsPlainWord word) : IsAscii word :=
  fun c hc => (h.isTailChar c hc).toNat_lt

theorem free (h : IsPlainWord word) : ∀ c ∈ word, c ∉ separators :=
  fun c hc => (h.isTailChar c hc).notMem_separators

theorem small_eq (h : IsPlainWord word) : small word = word :=
  (List.map_congr_left fun c hc => (h.isTailChar c hc).toLower_eq).trans (List.map_id word)

/-- With a capital at the start, nothing else is new. -/
theorem titled_eq (h : IsPlainWord word) : titled word = word.modifyHead Char.toUpper := by
  rw [titled, h.small_eq]

theorem isHump_titled (h : IsPlainWord word) : IsHump (titled word) := by
  rw [h.titled_eq]
  match word, h with
  | _ :: _, h => exact h.2

theorem isAscii_titled (h : IsPlainWord word) : IsAscii (titled word) := by
  have hascii := h.isAscii
  rw [h.titled_eq]
  match word, hascii with
  | first :: tail, hascii =>
    obtain ⟨hfirst, htail⟩ := List.forall_mem_cons.1 hascii
    exact List.forall_mem_cons.2 ⟨(isPlain hfirst).toNat_toUpper, htail⟩

theorem free_titled (h : IsPlainWord word) : ∀ c ∈ titled word, c ∉ separators := by
  have hfree := h.free
  rw [h.titled_eq]
  match word, hfree with
  | first :: tail, hfree =>
    obtain ⟨hfirst, htail⟩ := List.forall_mem_cons.1 hfree
    exact List.forall_mem_cons.2 ⟨toUpper_mem_separators.not.2 hfirst, htail⟩

theorem isUpper_head_titled (h : IsPlainWord word) : ∀ c ∈ (titled word).head?, isUpper c := by
  intro c hc
  rw [(isPlain (h.isAscii_titled c (List.mem_of_mem_head? hc))).isUpper]
  rw [h.titled_eq] at hc
  match word, h with
  | first :: _, ⟨hfirst, _⟩ =>
    obtain rfl : first.toUpper = c := by simpa using hc
    rw [(caseLaws first).isUpper_toUpper, isAlpha_eq, hfirst, Bool.or_true]

end IsPlainWord

/-- Plain words come back from between hyphens, one alone included. -/
theorem splitWords_plain (hwords : ∀ word ∈ words, IsPlainWord word) :
    splitWords (joinWords ['-'] words) = words := by
  refine splitWords_joinWords (by decide) (fun word h => ⟨?_, (hwords word h).free⟩)
    fun word halone => ?_
  · rintro rfl
    exact hwords [] h
  · have hword := hwords word (halone ▸ List.mem_singleton_self word)
    have hflatten : humps [word].flatten = [word] :=
      humps_flatten (List.forall_mem_singleton.2 hword.isHump) (by simp)
    simpa using hflatten

/-! ### Words side by side -/

/-- The humps of a name in camel case: its words, all but the first with a capital. -/
def camelHumps : List (List Char) → List (List Char)
  | [] => []
  | word :: words => word :: words.map titled

/-- Humps without separators are the words of the text they make. -/
theorem splitWords_flatten (hpieces : ∀ piece ∈ pieces, IsHump piece)
    (hfree : ∀ piece ∈ pieces, ∀ c ∈ piece, c ∉ separators)
    (hcapitals : ∀ piece ∈ pieces.tail, ∀ c ∈ piece.head?, isUpper c) :
    splitWords pieces.flatten = pieces := by
  rw [splitWords_of_no_separator, humps_flatten hpieces hcapitals]
  intro c hc
  obtain ⟨piece, hpiece, hmem⟩ := List.mem_flatten.1 hc
  exact hfree piece hpiece c hmem

section Plain

variable (hwords : ∀ word ∈ words, IsPlainWord word)

include hwords

theorem splitWords_pascal :
    splitWords (NamingStyle.pascal.join words) = words.map titled := by
  rw [NamingStyle.join, map_capitalize fun word h => (hwords word h).isAscii]
  refine splitWords_flatten (List.forall_mem_map.2 fun word h => (hwords word h).isHump_titled)
    (List.forall_mem_map.2 fun word h => (hwords word h).free_titled) fun piece h => ?_
  obtain ⟨word, hword, rfl⟩ := List.mem_map.1 (List.mem_of_mem_tail h)
  exact (hwords word hword).isUpper_head_titled

theorem splitWords_camel :
    splitWords (NamingStyle.camel.join words) = camelHumps words := by
  cases words with
  | nil => rfl
  | cons word words =>
    obtain ⟨hword, hrest⟩ := List.forall_mem_cons.1 hwords
    have hjoin : NamingStyle.camel.join (word :: words) = (camelHumps (word :: words)).flatten := by
      rw [NamingStyle.join, camelWords, lowerWord_eq hword.isAscii, hword.small_eq,
        map_capitalize fun word h => (hrest word h).isAscii]
      rfl
    rw [hjoin]
    refine splitWords_flatten ?_ ?_ ?_
    · exact List.forall_mem_cons.2 ⟨hword.isHump,
        List.forall_mem_map.2 fun word h => (hrest word h).isHump_titled⟩
    · exact List.forall_mem_cons.2 ⟨hword.free,
        List.forall_mem_map.2 fun word h => (hrest word h).free_titled⟩
    · exact List.forall_mem_map.2 fun word h => (hrest word h).isUpper_head_titled

theorem map_small_titled : (words.map titled).map small = words := by
  rw [List.map_map]
  refine (List.map_congr_left fun word h => ?_).trans (List.map_id words)
  exact (small_titled word).trans (hwords word h).small_eq

/-- No style sees the capitals of Pascal case. -/
theorem join_map_titled (style : NamingStyle) :
    style.join (words.map titled) = style.join words := by
  rw [← style.join_small (List.forall_mem_map.2 fun word h => (hwords word h).isAscii_titled),
    map_small_titled hwords]

/-- No style sees the capitals of camel case. -/
theorem join_camelHumps (style : NamingStyle) :
    style.join (camelHumps words) = style.join words := by
  cases words with
  | nil => rfl
  | cons word words =>
    obtain ⟨hword, hrest⟩ := List.forall_mem_cons.1 hwords
    have hascii : ∀ piece ∈ camelHumps (word :: words), IsAscii piece :=
      List.forall_mem_cons.2 ⟨hword.isAscii,
        List.forall_mem_map.2 fun word h => (hrest word h).isAscii_titled⟩
    rw [← style.join_small hascii, camelHumps, List.map_cons, map_small_titled hrest,
      hword.small_eq]

end Plain

/-- **Camel and Pascal case are read back.** When a name is made of plain words with hyphens
between them, the words of its Pascal case are its words with a capital each, `kebab` style
makes the name again from either case, and either case is made from the other one. -/
theorem camel_and_pascal_decoded {name : String} (hwords : ∀ word ∈ words, IsPlainWord word)
    (hname : name.toList = joinWords ['-'] words) :
    splitWords (NamingStyle.pascal.apply name).toList = words.map (List.modifyHead Char.toUpper) ∧
    NamingStyle.kebab.apply (NamingStyle.pascal.apply name) = name ∧
    NamingStyle.kebab.apply (NamingStyle.camel.apply name) = name ∧
    NamingStyle.pascal.apply (NamingStyle.camel.apply name) = NamingStyle.pascal.apply name ∧
    NamingStyle.camel.apply (NamingStyle.pascal.apply name) = NamingStyle.camel.apply name := by
  have hsplit : splitWords name.toList = words := by rw [hname, splitWords_plain hwords]
  have hpascal : splitWords (NamingStyle.pascal.apply name).toList = words.map titled := by
    rw [toList_apply, hsplit, splitWords_pascal hwords]
  have hcamel : splitWords (NamingStyle.camel.apply name).toList = camelHumps words := by
    rw [toList_apply, hsplit, splitWords_camel hwords]
  have hkebab : NamingStyle.kebab.apply name = name := by
    rw [← String.toList_inj, toList_apply, hsplit, NamingStyle.join,
      map_lowerWord fun word h => (hwords word h).isAscii, hname]
    exact congrArg _ ((List.map_congr_left fun word h => (hwords word h).small_eq).trans
      (List.map_id words))
  have hfromPascal (style : NamingStyle) :
      style.apply (NamingStyle.pascal.apply name) = style.apply name := by
    rw [← String.toList_inj, toList_apply, hpascal, join_map_titled hwords, toList_apply, hsplit]
  have hfromCamel (style : NamingStyle) :
      style.apply (NamingStyle.camel.apply name) = style.apply name := by
    rw [← String.toList_inj, toList_apply, hcamel, join_camelHumps hwords, toList_apply, hsplit]
  refine ⟨?_, (hfromPascal _).trans hkebab, (hfromCamel _).trans hkebab, hfromCamel _,
    hfromPascal _⟩
  rw [hpascal]
  exact List.map_congr_left fun word h => (hwords word h).titled_eq

/-- Words of two letters, words that end in a digit, and a first word without a capital. -/
theorem camel_and_pascal_decoded_user2 :
    (∀ word ∈ ["user2".toList, "id".toList, "v1b".toList], IsPlainWord word) ∧
    "user2-id-v1b".toList = joinWords ['-'] ["user2".toList, "id".toList, "v1b".toList] ∧
    NamingStyle.pascal.apply "user2-id-v1b" = "User2IdV1b" ∧
    NamingStyle.camel.apply "user2-id-v1b" = "user2IdV1b" ∧
    splitWords "User2IdV1b".toList = ["User2".toList, "Id".toList, "V1b".toList] ∧
    NamingStyle.kebab.apply "User2IdV1b" = "user2-id-v1b" ∧
    NamingStyle.kebab.apply "user2IdV1b" = "user2-id-v1b" ∧
    NamingStyle.pascal.apply "user2IdV1b" = "User2IdV1b" ∧
    NamingStyle.camel.apply "User2IdV1b" = "user2IdV1b" := by
  have hwords : ∀ word ∈ ["user2".toList, "id".toList, "v1b".toList], IsPlainWord word := by
    decide
  have hname : "user2-id-v1b".toList =
      joinWords ['-'] ["user2".toList, "id".toList, "v1b".toList] := by
    decide
  have hpascal : NamingStyle.pascal.apply "user2-id-v1b" = "User2IdV1b" := by decide
  have hcamel : NamingStyle.camel.apply "user2-id-v1b" = "user2IdV1b" := by decide
  have hdecoded := camel_and_pascal_decoded hwords hname
  rw [hpascal, hcamel] at hdecoded
  exact ⟨hwords, hname, hpascal, hcamel, hdecoded⟩

/-- Words of one letter are not told apart. -/
example : NamingStyle.kebab.apply (NamingStyle.pascal.apply "ab-c-d") = "ab-cd" := by decide

end Blueprint
