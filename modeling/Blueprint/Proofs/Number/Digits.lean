import Blueprint.Number
import Mathlib.Data.List.Basic

/-!
# Decimal digits

Numbers are written by the digits of the standard library (`Blueprint.Double.decimalDigits`) and
read digit by digit (`Blueprint.Double.readDigits`). A number comes back from its digits, so
different numbers have different texts. The digits start with a zero only where they are a zero,
which is what a format that refuses leading zeros asks for.

However a number is laid out, there is little in its text beside digits
(`Blueprint.Number.isNumeral_of_mem_text`).
-/

namespace Blueprint

namespace Double

variable {m n k : Nat} {c : Char}

/-- **A number is read back from its digits.** -/
theorem readDigits_decimalDigits (n : Nat) : readDigits (decimalDigits n) = n :=
  Nat.ofDigitChars_toDigits (by decide) (by decide)

/-- Zeros in front of digits do not count. -/
theorem readDigits_replicate_append (k : Nat) (digits : List Char) :
    readDigits (List.replicate k '0' ++ digits) = readDigits digits := by
  induction k with
  | zero => rfl
  | succ k ih => exact ih

theorem decimalDigits_ne_nil (n : Nat) : decimalDigits n ≠ [] := Nat.toDigits_ne_nil

theorem isDigit_of_mem_decimalDigits (h : c ∈ decimalDigits n) : c.isDigit = true :=
  Nat.isDigit_of_mem_toDigits (by decide) (by decide) h

/-- The first digit. -/
theorem exists_decimalDigits_eq_cons (n : Nat) :
    ∃ c cs, decimalDigits n = c :: cs ∧ c.isDigit = true := by
  obtain ⟨c, cs, hcons⟩ := List.exists_cons_of_ne_nil (decimalDigits_ne_nil n)
  exact ⟨c, cs, hcons, isDigit_of_mem_decimalDigits (hcons ▸ List.mem_cons_self)⟩

/-- So many digits are enough for the numbers below a power of ten. -/
theorem length_decimalDigits_le (hk : 0 < k) (h : n < tenTo k) : (decimalDigits n).length ≤ k :=
  (Nat.length_toDigits_le_iff (by decide) hk).mpr h

/-- A number that is not zero does not start with a zero. -/
theorem head?_decimalDigits_ne (h : 0 < n) : (decimalDigits n).head? ≠ some '0' := by
  induction n using Nat.strongRecOn with
  | ind n ih =>
    rcases Nat.lt_or_ge n 10 with hlt | hge
    · rw [decimalDigits, Nat.toDigits_of_lt_base hlt, List.head?_singleton]
      intro hzero
      have hnat : n.digitChar.toNat = '0'.toNat := congrArg Char.toNat (Option.some.inj hzero)
      rw [Nat.toNat_digitChar_of_lt_ten hlt] at hnat
      have h48 : '0'.toNat = 48 := rfl
      omega
    · -- The first digit is that of the number without its last digit.
      rw [decimalDigits, Nat.toDigits_of_base_le (by decide) hge,
        List.head?_append_of_ne_nil _ Nat.toDigits_ne_nil]
      exact ih (n / 10) (by omega) (by omega)

/-- **The digits start with a zero only where they are a zero.** -/
theorem length_decimalDigits_of_head (h : (decimalDigits n).head? = some '0') :
    (decimalDigits n).length = 1 := by
  rcases Nat.eq_zero_or_pos n with rfl | hpos
  · rfl
  · exact absurd h (head?_decimalDigits_ne hpos)

/-- Different numbers have different digits. -/
theorem decimalDigits_inj : decimalDigits m = decimalDigits n ↔ m = n := by
  constructor
  · intro h
    rw [← readDigits_decimalDigits m, h, readDigits_decimalDigits]
  · rintro rfl
    rfl

end Double

/-- **Different numbers have different texts.** -/
theorem naturalText_inj {m n : Nat} : naturalText m = naturalText n ↔ m = n := by
  rw [naturalText, naturalText, String.ofList_inj, Double.decimalDigits_inj]

/-! ### Characters of numbers -/

/-- **A character of a number**: a digit, the point, a sign, or the mark of an exponent. -/
def IsNumeral (c : Char) : Prop := c.isDigit = true ∨ c ∈ ['.', 'e', '-', '+']

instance : DecidablePred IsNumeral := fun c =>
  inferInstanceAs (Decidable (c.isDigit = true ∨ c ∈ ['.', 'e', '-', '+']))

namespace Double

theorem isNumeral_of_mem_decimalDigits {n : Nat} : ∀ c ∈ decimalDigits n, IsNumeral c :=
  fun _ hc => Or.inl (isDigit_of_mem_decimalDigits hc)

/-- Digits are laid out by characters of numbers. -/
theorem isNumeral_of_mem_layout {digits : List Char} (h : ∀ c ∈ digits, IsNumeral c)
    (exponent : Int) : ∀ c ∈ layout digits exponent, IsNumeral c := by
  have hzeros : ∀ n, ∀ c ∈ zeros n, IsNumeral c := fun n c hc => by
    rw [(List.mem_replicate.mp hc).2]
    decide
  have htake : ∀ n, ∀ c ∈ digits.take n, IsNumeral c := fun n c hc => h c (List.mem_of_mem_take hc)
  have hdrop : ∀ n, ∀ c ∈ digits.drop n, IsNumeral c := fun n c hc => h c (List.mem_of_mem_drop hc)
  simp only [layout]
  split
  · simp only [List.forall_mem_append, List.forall_mem_cons]
    exact ⟨⟨h, hzeros _⟩, by decide, by decide, List.forall_mem_nil _⟩
  split
  · rw [List.forall_mem_append, List.forall_mem_cons]
    exact ⟨htake _, by decide, hdrop _⟩
  split
  · simp only [List.forall_mem_append, List.forall_mem_cons]
    exact ⟨by decide, by decide, hzeros _, h⟩
  · simp only [List.forall_mem_append, List.forall_mem_cons]
    refine ⟨⟨htake 1, ?_⟩, by decide, ?_, isNumeral_of_mem_decimalDigits⟩
    · split
      · exact List.forall_mem_nil _
      · exact List.forall_mem_cons.mpr ⟨by decide, hdrop 1⟩
    · split <;> decide

theorem isNumeral_of_mem_text (x : Double) : ∀ c ∈ x.text.toList, IsNumeral c := by
  have hbody : ∀ c ∈ (if x.isZero then ['0', '.', '0'] else
      layout (decimalDigits x.shortest.1) x.shortest.2), IsNumeral c := by
    split
    · simp only [List.forall_mem_cons]
      exact ⟨by decide, by decide, by decide, List.forall_mem_nil _⟩
    · exact isNumeral_of_mem_layout isNumeral_of_mem_decimalDigits _
  rw [text, String.toList_ofList]
  split
  · rw [List.forall_mem_cons]
    exact ⟨by decide, hbody⟩
  · exact hbody

end Double

/-- **The text of a number** has no other characters. -/
theorem Number.isNumeral_of_mem_text (x : Number) : ∀ c ∈ x.text.toList, IsNumeral c := by
  cases x with
  | integer n h =>
    have hdigits : ∀ c ∈ (naturalText n.natAbs).toList, IsNumeral c := by
      rw [naturalText, String.toList_ofList]
      exact Double.isNumeral_of_mem_decimalDigits
    rw [text, integerText]
    split
    · have hsign : "-".toList = ['-'] := rfl
      rw [String.toList_append, hsign, List.singleton_append, List.forall_mem_cons]
      exact ⟨by decide, hdigits⟩
    · exact hdigits
  | double x => exact x.isNumeral_of_mem_text

end Blueprint
