import Blueprint.Proofs.Naming.Words
import Mathlib.Tactic.MkIffOfInductiveProp

/-!
# Names of ASCII

On the characters of ASCII the two cases are those of `Char.toLower` and `Char.toUpper`:
one character becomes one character, whatever stands around it, and there is no sigma. A
word of ASCII is thus spelled one character at a time (`Blueprint.lowerWord_eq`,
`Blueprint.upperWord_eq`, `Blueprint.capitalize_eq`).

What all spellings of a word have in common is the word in small letters: each style joins
the small words to the same name as the words themselves
(`Blueprint.NamingStyle.join_small`). The two maps change only letters of ASCII, so what they
do to a character is looked up for its 128 characters (`Blueprint.IsPlain`), also where it is
said of every one (`Blueprint.CaseLaws`).
-/

namespace Blueprint

/-- **Text of ASCII.** -/
def IsAscii (s : List Char) : Prop := ∀ c ∈ s, c.toNat < 128

/-- A word in small letters. -/
def small (word : List Char) : List Char := word.map Char.toLower

/-- A word in capitals. -/
def capitals (word : List Char) : List Char := word.map Char.toUpper

/-- A word in small letters but for a capital at its start. -/
def titled (word : List Char) : List Char := (small word).modifyHead Char.toUpper

variable {c : Char} {s word : List Char} {words : List (List Char)}

/-! ### Characters of ASCII -/

theorem isUpper_iff : c.isUpper ↔ 'A'.val ≤ c.val ∧ c.val ≤ 'Z'.val :=
  decide_eq_true_iff

theorem isLower_iff : c.isLower ↔ 'a'.val ≤ c.val ∧ c.val ≤ 'z'.val := by
  change (decide ('a'.val ≤ c.val) && decide (c.val ≤ 'z'.val)) = true ↔ _
  rw [Bool.and_eq_true, decide_eq_true_iff, decide_eq_true_iff]

theorem isAlpha_eq (c : Char) : c.isAlpha = (c.isUpper || c.isLower) := rfl

theorem toNat_lt_of_isUpper (h : c.isUpper) : c.toNat < 128 :=
  Nat.lt_of_le_of_lt (UInt32.le_iff_toNat_le.1 (isUpper_iff.1 h).2) (by decide)

theorem toNat_lt_of_isLower (h : c.isLower) : c.toNat < 128 :=
  Nat.lt_of_le_of_lt (UInt32.le_iff_toNat_le.1 (isLower_iff.1 h).2) (by decide)

theorem toLower_eq_self (h : ¬c.isUpper) : c.toLower = c :=
  dif_neg fun hc => h (isUpper_iff.2 hc)

theorem toUpper_eq_self (h : ¬c.isLower) : c.toUpper = c :=
  dif_neg fun hc => h (isLower_iff.2 hc)

/-- What holds of the first 128 characters, looked up one by one. -/
theorem forall_ascii {p : Char → Prop} (h : ∀ n < 128, p (Char.ofNat n)) (hc : c.toNat < 128) :
    p c := by
  have hn := h c.toNat hc
  rwa [Char.ofNat_toNat] at hn

/-- **What the maps and the tests do with a character of ASCII**: they are those of `Char`, and the
maps keep to ASCII. -/
@[mk_iff]
structure IsPlain (c : Char) : Prop where
  lowerOf : Blueprint.lowerOf c = [c.toLower]
  upperOf : Blueprint.upperOf c = [c.toUpper]
  isUpper : Blueprint.isUpper c = c.isUpper
  isLower : Blueprint.isLower c = c.isLower
  toNat_toLower : c.toLower.toNat < 128
  toNat_toUpper : c.toUpper.toNat < 128

instance : DecidablePred IsPlain := fun c => decidable_of_iff _ (isPlain_iff c).symm

/-- Every character of ASCII is plain: all of it is looked up at once. -/
theorem isPlain (hc : c.toNat < 128) : IsPlain c :=
  forall_ascii (p := IsPlain) (by decide +kernel) hc

/-- **The laws of the two cases**: the map that comes last decides, neither leaves a letter of the
other case, and digits and separators stay what they are. -/
@[mk_iff]
structure CaseLaws (c : Char) : Prop where
  toLower_toLower : c.toLower.toLower = c.toLower
  toLower_toUpper : c.toUpper.toLower = c.toLower
  toUpper_toLower : c.toLower.toUpper = c.toUpper
  toUpper_toUpper : c.toUpper.toUpper = c.toUpper
  isUpper_toLower : c.toLower.isUpper = false
  isLower_toUpper : c.toUpper.isLower = false
  isUpper_toUpper : c.toUpper.isUpper = c.isAlpha
  isDigit_toUpper : c.toUpper.isDigit = c.isDigit
  toLower_mem : c.toLower ∈ separators ↔ c ∈ separators
  toUpper_mem : c.toUpper ∈ separators ↔ c ∈ separators

instance : DecidablePred CaseLaws := fun c => decidable_of_iff _ (caseLaws_iff c).symm

/-- The laws hold of every character, since the maps change nothing beyond ASCII. -/
theorem caseLaws (c : Char) : CaseLaws c := by
  rcases Nat.lt_or_ge c.toNat 128 with hc | hc
  · exact forall_ascii (p := CaseLaws) (by decide +kernel) hc
  · have hupper : ¬c.isUpper := fun h => Nat.not_lt.2 hc (toNat_lt_of_isUpper h)
    have hlower : ¬c.isLower := fun h => Nat.not_lt.2 hc (toNat_lt_of_isLower h)
    have hlow := toLower_eq_self hupper
    have hhigh := toUpper_eq_self hlower
    constructor <;> simp [hlow, hhigh, hupper, hlower, isAlpha_eq]

@[simp] theorem toLower_toLower (c : Char) : c.toLower.toLower = c.toLower :=
  (caseLaws c).toLower_toLower

@[simp] theorem toLower_toUpper (c : Char) : c.toUpper.toLower = c.toLower :=
  (caseLaws c).toLower_toUpper

@[simp] theorem toUpper_toLower (c : Char) : c.toLower.toUpper = c.toUpper :=
  (caseLaws c).toUpper_toLower

@[simp] theorem toUpper_toUpper (c : Char) : c.toUpper.toUpper = c.toUpper :=
  (caseLaws c).toUpper_toUpper

@[simp] theorem isDigit_toUpper : c.toUpper.isDigit = c.isDigit :=
  (caseLaws c).isDigit_toUpper

@[simp] theorem toLower_mem_separators : c.toLower ∈ separators ↔ c ∈ separators :=
  (caseLaws c).toLower_mem

@[simp] theorem toUpper_mem_separators : c.toUpper ∈ separators ↔ c ∈ separators :=
  (caseLaws c).toUpper_mem

/-! ### Words of ASCII -/

@[simp] theorem small_small (word : List Char) : small (small word) = small word := by
  simp [small, Function.comp_def]

@[simp] theorem capitals_capitals (word : List Char) :
    capitals (capitals word) = capitals word := by
  simp [capitals, Function.comp_def]

@[simp] theorem capitals_small (word : List Char) : capitals (small word) = capitals word := by
  simp [capitals, small, Function.comp_def]

@[simp] theorem titled_small (word : List Char) : titled (small word) = titled word := by
  rw [titled, small_small, titled]

@[simp] theorem small_titled (word : List Char) : small (titled word) = small word := by
  cases word <;> simp [titled, small, Function.comp_def]

theorem IsAscii.small (h : IsAscii word) : IsAscii (small word) := by
  intro c hc
  obtain ⟨d, hd, rfl⟩ := List.mem_map.1 hc
  exact (isPlain (h d hd)).toNat_toLower

theorem IsAscii.capitals (h : IsAscii word) : IsAscii (capitals word) := by
  intro c hc
  obtain ⟨d, hd, rfl⟩ := List.mem_map.1 hc
  exact (isPlain (h d hd)).toNat_toUpper

theorem IsAscii.of_mem_splitWords (h : IsAscii s) (hword : word ∈ splitWords s) :
    IsAscii word := by
  intro c hc
  have hmem := List.mem_flatten_of_mem hword hc
  rw [flatten_splitWords] at hmem
  exact h c (List.mem_filter.1 hmem).1

theorem lowerAfter_eq (before : List Char) (h : IsAscii word) :
    lowerAfter before word = small word := by
  induction word generalizing before with
  | nil => rfl
  | cons c rest ih =>
    obtain ⟨hc, hrest⟩ := List.forall_mem_cons.1 h
    have hsigma : c.toNat ≠ 0x3A3 := by omega
    rw [lowerAfter, if_neg hsigma, (isPlain hc).lowerOf, ih _ hrest]
    rfl

theorem lowerWord_eq (h : IsAscii word) : lowerWord word = small word :=
  lowerAfter_eq [] h

theorem flatMap_upperOf (h : IsAscii word) : word.flatMap upperOf = capitals word := by
  rw [capitals, List.map_eq_flatMap]
  exact List.flatMap_congr fun c hc => (isPlain (h c hc)).upperOf

theorem upperWord_eq (h : IsAscii word) : upperWord word = capitals word :=
  flatMap_upperOf h

theorem capitalize_eq (h : IsAscii word) : capitalize word = titled word := by
  cases word with
  | nil => rfl
  | cons c cs =>
    obtain ⟨hc, hcs⟩ := List.forall_mem_cons.1 h
    have hrest : cs.flatMap lowerOf = small cs := by
      rw [small, List.map_eq_flatMap]
      exact List.flatMap_congr fun d hd => (isPlain (hcs d hd)).lowerOf
    rw [capitalize, (isPlain hc).upperOf, hrest]
    simp [titled, small]

/-! ### Names of ASCII words -/

section Join

variable (hwords : ∀ word ∈ words, IsAscii word)

include hwords

theorem map_lowerWord : words.map lowerWord = words.map small :=
  List.map_congr_left fun word h => lowerWord_eq (hwords word h)

theorem map_upperWord : words.map upperWord = words.map capitals :=
  List.map_congr_left fun word h => upperWord_eq (hwords word h)

theorem map_capitalize : words.map capitalize = words.map titled :=
  List.map_congr_left fun word h => capitalize_eq (hwords word h)

/-- **A style does not see the case of the words it joins.** -/
theorem NamingStyle.join_small (style : NamingStyle) :
    style.join (words.map small) = style.join words := by
  have hsmall : ∀ word ∈ words.map Blueprint.small, IsAscii word :=
    List.forall_mem_map.2 fun word h => (hwords word h).small
  cases style with
  | kebab => simp [join, map_lowerWord hsmall, map_lowerWord hwords, Function.comp_def]
  | snake => simp [join, map_lowerWord hsmall, map_lowerWord hwords, Function.comp_def]
  | upperKebab => simp [join, map_upperWord hsmall, map_upperWord hwords, Function.comp_def]
  | upperSnake => simp [join, map_upperWord hsmall, map_upperWord hwords, Function.comp_def]
  | pascal => simp [join, map_capitalize hsmall, map_capitalize hwords, Function.comp_def]
  | camel =>
    cases words with
    | nil => rfl
    | cons word words =>
      obtain ⟨hword, hrest⟩ := List.forall_mem_cons.1 hwords
      obtain ⟨hword', hrest'⟩ := List.forall_mem_cons.1 hsmall
      simp only [join, camelWords, List.map_cons]
      rw [lowerWord_eq hword', lowerWord_eq hword, map_capitalize hrest', map_capitalize hrest]
      simp [Function.comp_def]

end Join

end Blueprint
