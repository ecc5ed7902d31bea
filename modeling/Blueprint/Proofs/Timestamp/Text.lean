import Blueprint.Proofs.Number.Digits
import Blueprint.Timestamp

/-!
# The text of an instant

An instant is read back from its text, to the nanosecond (`Blueprint.Timestamp.readLoose?_text`).
The reader takes as many digits as there are up to a bound, so every number must end where its
field ends. There are three reasons why it does.

| field | why the number ends |
|---|---|
| month, day, hour, minute, second, a year of four digits | it has as many digits as are taken |
| a year with a sign | a hyphen follows |
| a fraction | the letter of the offset follows |

Fractions of three and six digits are numbers of thousandths and millionths, and the zeros that
were left out are put back by a power of ten.
-/

namespace Blueprint

namespace Timestamp

variable {c : Char} {n width least most : Nat} {digits rest : List Char}

/-! ### Padded numbers -/

theorem isDigit_of_mem_padded (h : c ∈ padded width n) : c.isDigit = true := by
  rw [padded, List.mem_append, List.mem_replicate] at h
  rcases h with ⟨-, rfl⟩ | h
  · rfl
  · exact Double.isDigit_of_mem_decimalDigits h

theorem readDigits_padded (width n : Nat) : Double.readDigits (padded width n) = n := by
  rw [padded, Double.readDigits_replicate_append, Double.readDigits_decimalDigits]

/-- A number that fits has exactly the width. -/
theorem length_padded (hwidth : 0 < width) (h : n < tenTo width) :
    (padded width n).length = width := by
  have hle := Double.length_decimalDigits_le hwidth h
  rw [padded, List.length_append, List.length_replicate]
  omega

/-- A number has a first digit. -/
theorem exists_padded_eq_cons (width n : Nat) :
    ∃ c cs, padded width n = c :: cs ∧ c.isDigit = true := by
  have hne : padded width n ≠ [] :=
    List.append_ne_nil_of_right_ne_nil _ (Double.decimalDigits_ne_nil n)
  obtain ⟨c, cs, hcons⟩ := List.exists_cons_of_ne_nil hne
  exact ⟨c, cs, hcons, isDigit_of_mem_padded (hcons ▸ List.mem_cons_self)⟩

/-! ### Digits up to a bound -/

/-- The number ends with these digits: there are as many as are taken, or none follows. -/
def EndsDigits (most : Nat) (digits rest : List Char) : Prop :=
  digits.length = most ∨ ∀ c ∈ rest.head?, c.isDigit = false

/-- The digits that are taken are those of the number. -/
theorem takeWhile_take_append (hdigits : ∀ c ∈ digits, c.isDigit = true)
    (hmost : digits.length ≤ most) (hend : EndsDigits most digits rest) :
    ((digits ++ rest).take most).takeWhile Char.isDigit = digits := by
  have hstop : (rest.take (most - digits.length)).takeWhile Char.isDigit = [] := by
    rcases hend with h | h
    · rw [h, Nat.sub_self]
      rfl
    · cases rest with
      | nil => simp
      | cons c rest =>
        cases most - digits.length with
        | zero => rfl
        | succ k =>
          rw [List.take_succ_cons, List.takeWhile_cons_of_neg]
          rw [h c rfl]
          decide
  rw [List.take_append, List.take_of_length_le hmost, List.takeWhile_append_of_pos hdigits, hstop,
    List.append_nil]

theorem scanNumber?_append (hdigits : ∀ c ∈ digits, c.isDigit = true)
    (hleast : least ≤ digits.length) (hmost : digits.length ≤ most)
    (hend : EndsDigits most digits rest) :
    scanNumber? least most (digits ++ rest) = some (Double.readDigits digits, rest) := by
  rw [scanNumber?]
  simp only [takeWhile_take_append hdigits hmost hend]
  rw [if_neg (by omega), List.drop_left]

/-! ### Fields -/

theorem isBlank_eq_false_of_isDigit (h : c.isDigit = true) : isBlank c = false := by
  rw [Char.isDigit_iff_toNat] at h
  have h0 : '0'.toNat = 48 := rfl
  have h9 : '9'.toNat = 57 := rfl
  simp only [isBlank, Bool.or_eq_false_iff, Bool.and_eq_false_iff, decide_eq_false_iff_not,
    beq_eq_false_iff_ne]
  omega

theorem skipBlanks_cons (h : isBlank c = false) : skipBlanks (c :: rest) = c :: rest := by
  rw [skipBlanks, List.dropWhile_cons_of_neg (by rw [h]; decide)]

/-- No blank stands before a number. -/
theorem skipBlanks_padded (width n : Nat) (rest : List Char) :
    skipBlanks (padded width n ++ rest) = padded width n ++ rest := by
  obtain ⟨c, cs, hcons, hdigit⟩ := exists_padded_eq_cons width n
  rw [hcons, List.cons_append, skipBlanks_cons (isBlank_eq_false_of_isDigit hdigit)]

/-- A number of two digits. -/
theorem scanNumber?_two (h : n < 100) (rest : List Char) :
    scanNumber? 1 2 (padded 2 n ++ rest) = some (n, rest) := by
  have hlength : (padded 2 n).length = 2 := length_padded (by decide) h
  rw [scanNumber?_append (fun c => isDigit_of_mem_padded) (by omega) (by omega) (Or.inl hlength),
    readDigits_padded]

/-- A field of two digits behind its separator. -/
theorem scanLooseField?_two {separator : Char} (hseparator : isBlank separator = false)
    (h : n < 100) (rest : List Char) :
    scanLooseField? separator (separator :: (padded 2 n ++ rest)) = some (n, rest) := by
  rw [scanLooseField?, skipBlanks_cons hseparator, scanChar?, if_pos rfl, Option.bind_eq_bind,
    Option.bind_some, skipBlanks_padded, scanNumber?_two h]

/-! ### Years -/

/-- A year with a sign ends at the hyphen. -/
theorem scanNumber?_year (n : Nat) (rest : List Char) :
    scanNumber? 1 (padded 4 n ++ '-' :: rest).length (padded 4 n ++ '-' :: rest) =
      some (n, '-' :: rest) := by
  obtain ⟨c, cs, hcons, -⟩ := exists_padded_eq_cons 4 n
  have hleast : 1 ≤ (padded 4 n).length := by
    rw [hcons, List.length_cons]
    omega
  have hmost : (padded 4 n).length ≤ (padded 4 n ++ '-' :: rest).length := by
    rw [List.length_append]
    omega
  have hend : ∀ c ∈ ('-' :: rest).head?, c.isDigit = false := by
    rintro c ⟨⟩
    rfl
  rw [scanNumber?_append (fun c => isDigit_of_mem_padded) hleast hmost (Or.inr hend),
    readDigits_padded]

/-- **A year is read back**, with or without a sign. -/
theorem scanYear?_yearText (year : Int) (rest : List Char) :
    scanYear? (yearText year ++ '-' :: rest) = some (year, '-' :: rest) := by
  rw [yearText]
  by_cases hplain : 0 ≤ year ∧ year ≤ 9999
  · have hlt : year.toNat < 10000 := by omega
    have hlength : (padded 4 year.toNat).length = 4 := length_padded (by decide) hlt
    have hscan : scanNumber? 1 4 (padded 4 year.toNat ++ '-' :: rest) =
        some (year.toNat, '-' :: rest) := by
      rw [scanNumber?_append (fun c => isDigit_of_mem_padded) (by omega) (by omega)
        (Or.inl hlength), readDigits_padded]
    obtain ⟨c, cs, hcons, hdigit⟩ := exists_padded_eq_cons 4 year.toNat
    rw [if_pos hplain, scanYear?, hscan]
    · simp only [Option.bind_eq_bind, Option.bind_some, Option.pure_def,
        Int.toNat_of_nonneg hplain.1]
    -- The first digit is no sign.
    · rintro cs' h
      rw [hcons] at h
      obtain ⟨rfl, -⟩ := List.cons.inj h
      exact absurd hdigit (by decide)
    · rintro cs' h
      rw [hcons] at h
      obtain ⟨rfl, -⟩ := List.cons.inj h
      exact absurd hdigit (by decide)
  · rw [if_neg hplain]
    by_cases hneg : year < 0
    · have hback : -(year.natAbs : Int) = year := by omega
      rw [if_pos hneg, List.cons_append, scanYear?, scanNumber?_year]
      simp only [Option.bind_eq_bind, Option.bind_some, Option.pure_def, hback]
    · have hback : (year.natAbs : Int) = year := by omega
      rw [if_neg hneg, List.cons_append, scanYear?, scanNumber?_year]
      simp only [Option.bind_eq_bind, Option.bind_some, Option.pure_def, hback]

/-- No blank stands before a year. -/
theorem skipBlanks_yearText (year : Int) (rest : List Char) :
    skipBlanks (yearText year ++ rest) = yearText year ++ rest := by
  rw [yearText]
  split
  · exact skipBlanks_padded 4 _ rest
  · split
    · exact skipBlanks_cons rfl
    · exact skipBlanks_cons rfl

/-! ### Fractions -/

/-- A fraction of so many digits. -/
theorem scanFraction?_padded (hwidth : 0 < width) (hnine : width ≤ 9) (h : n < tenTo width) :
    scanFraction? ('.' :: padded width n ++ ['Z']) = some (n * tenTo (9 - width), ['Z']) := by
  have hlength : (padded width n).length = width := length_padded hwidth h
  have hend : ∀ c ∈ ['Z'].head?, c.isDigit = false := by
    rintro c ⟨⟩
    rfl
  have hdigits : ((padded width n ++ ['Z']).take 9).takeWhile Char.isDigit = padded width n :=
    takeWhile_take_append (fun c => isDigit_of_mem_padded) (by omega) (Or.inr hend)
  obtain ⟨c, cs, hcons, -⟩ := exists_padded_eq_cons width n
  have hne : (padded width n).isEmpty = false := by rw [hcons, List.isEmpty_cons]
  rw [List.cons_append, scanFraction?]
  simp only [hdigits, hne, readDigits_padded, hlength, List.drop_left' hlength]
  rfl

/-- **A fraction is read back**, of as few digits as it was written with. -/
theorem scanFraction?_fractionText (h : n < 1000000000) :
    scanFraction? (fractionText n ++ ['Z']) = some (n, ['Z']) := by
  rw [fractionText]
  by_cases hzero : n = 0
  · rw [if_pos hzero, hzero]
    rfl
  rw [if_neg hzero]
  by_cases hmilli : n % 1000000 = 0
  · have hlt : n / 1000000 < tenTo 3 := Nat.div_lt_of_lt_mul h
    rw [if_pos hmilli, scanFraction?_padded (by decide) (by decide) hlt]
    have hback : n / 1000000 * tenTo (9 - 3) = n :=
      Nat.div_mul_cancel (Nat.dvd_of_mod_eq_zero hmilli)
    rw [hback]
  rw [if_neg hmilli]
  by_cases hmicro : n % 1000 = 0
  · have hlt : n / 1000 < tenTo 6 := Nat.div_lt_of_lt_mul h
    rw [if_pos hmicro, scanFraction?_padded (by decide) (by decide) hlt]
    have hback : n / 1000 * tenTo (9 - 6) = n :=
      Nat.div_mul_cancel (Nat.dvd_of_mod_eq_zero hmicro)
    rw [hback]
  · rw [if_neg hmicro, scanFraction?_padded (by decide) (by decide) h]
    have hback : n * tenTo (9 - 9) = n := Nat.mul_one n
    rw [hback]

/-! ### Whole instants -/

theorem daysInMonth_le (year : Int) (month : Nat) : daysInMonth year month ≤ 31 := by
  rw [daysInMonth.eq_def]
  split
  · split <;> decide
  all_goals decide

theorem instant?_toClockReading (t : Timestamp) : t.toClockReading.instant? = some t := by
  rw [ClockReading.instant?, dif_pos t.valid]

/-- The parts of an instant are within their ranges. -/
theorem bounds (t : Timestamp) :
    t.date.month ≤ 12 ∧ t.date.day ≤ 31 ∧ t.hour < 24 ∧ t.minute < 60 ∧ t.second ≤ 60 ∧
      t.nanosecond < 1000000000 := by
  have hvalid := t.valid
  simp only [ClockReading.isValid, Date.isValid, Bool.and_eq_true, decide_eq_true_eq] at hvalid
  obtain ⟨⟨⟨⟨⟨⟨⟨⟨⟨-, -⟩, -⟩, hmonth⟩, -⟩, hday⟩, hhour⟩, hminute⟩, hsecond⟩, hnano⟩ := hvalid
  exact ⟨hmonth, Nat.le_trans hday (daysInMonth_le _ _), hhour, hminute, hsecond, hnano⟩

/-- Where clocks show UTC, an instant is what they show. -/
theorem ofLocal?_zero (t : Timestamp) : ofLocal? t.toClockReading 0 = some t := by
  obtain ⟨-, -, hhour, hminute, -, -⟩ := t.bounds
  have hpast : ¬((t.hour * 60 + t.minute : Nat) : Int) - 0 < 0 := by omega
  have hnext : ¬1440 ≤ ((t.hour * 60 + t.minute : Nat) : Int) - 0 := by omega
  have hmod : ((((t.hour * 60 + t.minute : Nat) : Int) - 0) % 1440).toNat =
      t.hour * 60 + t.minute := by
    omega
  have hdiv : (t.hour * 60 + t.minute) / 60 = t.hour := by omega
  have hrest : (t.hour * 60 + t.minute) % 60 = t.minute := by omega
  simp only [ofLocal?, if_neg hpast, if_neg hnext, hmod, hdiv, hrest, t.valid]
  exact t.instant?_toClockReading

/-- **An instant is read back from its text**, to the nanosecond. -/
theorem readLoose?_text (t : Timestamp) : readLoose? t.text = some t := by
  obtain ⟨hmonth, hday, hhour, hminute, hsecond, hnano⟩ := t.bounds
  have hyphen : isBlank '-' = false := rfl
  have hcolon : isBlank ':' = false := rfl
  have hmark : ∀ rest, scanTimeMark? ('T' :: rest) = some rest := fun _ => rfl
  have hoffset : scanLooseOffset? (skipBlanks ['Z']) = some (0, []) := rfl
  rw [readLoose?, text, String.toList_ofList]
  -- The fields, one after the other.
  simp only [List.append_assoc, List.cons_append, Option.bind_eq_bind, Option.bind_some,
    skipBlanks_yearText, scanYear?_yearText,
    scanLooseField?_two hyphen (show t.date.month < 100 by omega),
    scanLooseField?_two hyphen (show t.date.day < 100 by omega),
    hmark, skipBlanks_padded, scanNumber?_two (show t.hour < 100 by omega),
    scanLooseField?_two hcolon (show t.minute < 100 by omega),
    scanLooseField?_two hcolon (show t.second < 100 by omega),
    scanFraction?_fractionText hnano, hoffset]
  exact t.ofLocal?_zero

end Timestamp

end Blueprint
