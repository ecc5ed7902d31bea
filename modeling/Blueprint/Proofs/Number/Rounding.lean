import Blueprint.Number
import Mathlib.Data.Nat.Log
import Mathlib.Data.Rat.Cast.Order
import Mathlib.Tactic.Linarith
import Mathlib.Tactic.Positivity

/-!
# Rounding integers to binary64 values

An integer is compared with a binary64 value after it is rounded to one itself. Rounding loses
digits, but it never changes sides: of two numbers the larger one does not round to the smaller
value (`Blueprint.Number.nearest_mono`). So two numbers of different rounded values are ordered
as these are, and all that the comparison may miss is a difference between two numbers that
round to the same value (`Blueprint.Number.exceeds_iff`).

| compared | exceeds when |
|---|---|
| two integers below `2^63` | the first is larger |
| any other two numbers | the first is larger, and they round to different values |

Values are counted in quanta throughout, where rounding is rounding to a multiple of a power of
two, which depends on the length of the number. Monotony is then a matter of two cases: between
numbers of one length the power is the same, and between numbers of different lengths there is
a power of two, which rounds to itself.
-/

namespace Blueprint

namespace Double

/-! ### Rounded quotients -/

section Quotients

variable {a b d : Nat}

theorem div_le_roundQuotient (a d : Nat) : a / d ≤ roundQuotient a d := by
  simp only [roundQuotient]
  split <;> omega

theorem roundQuotient_le_div_add_one (a d : Nat) : roundQuotient a d ≤ a / d + 1 := by
  simp only [roundQuotient]
  split <;> omega

/-- A quotient without a rest is not rounded. -/
theorem roundQuotient_mul (a : Nat) (hd : 0 < d) : roundQuotient (a * d) d = a := by
  have hrest : ¬(d < 0 ∨ 0 = d ∧ a % 2 = 1) := by omega
  simp only [roundQuotient, Nat.mul_div_cancel a hd, Nat.mul_mod_left, Nat.mul_zero, if_neg hrest]

/-- **The rounded quotient of a larger number is not smaller.** -/
theorem roundQuotient_mono (h : a ≤ b) : roundQuotient a d ≤ roundQuotient b d := by
  rcases (Nat.div_le_div_right (c := d) h).lt_or_eq with hlt | heq
  · calc roundQuotient a d ≤ a / d + 1 := roundQuotient_le_div_add_one a d
      _ ≤ b / d := hlt
      _ ≤ roundQuotient b d := div_le_roundQuotient b d
  · -- With the same whole part it is the rests that are compared.
    have hrest : a % d ≤ b % d := by
      have ha := Nat.div_add_mod a d
      have hb := Nat.div_add_mod b d
      rw [heq] at ha
      omega
    simp only [roundQuotient, heq]
    split <;> split <;> omega

end Quotients

/-! ### The nearest value, in quanta -/

section Nearest

variable {q r : Nat}

/-- The scale at which so many quanta have 53 digits. -/
def scaleOf (q : Nat) : Nat := Nat.log2 q + 1 - 53

/-- So many quanta, rounded to 53 digits. -/
def nearestQuanta (q : Nat) : Nat := roundQuotient q (twoTo (scaleOf q)) * twoTo (scaleOf q)

theorem twoTo_pos (k : Nat) : 0 < twoTo k := Nat.two_pow_pos k

theorem twoTo_add (j k : Nat) : twoTo (j + k) = twoTo j * twoTo k := Nat.pow_add 2 j k

theorem twoTo_le (h : q ≤ r) : twoTo q ≤ twoTo r := Nat.pow_le_pow_right (by decide) h

/-- A number has at most 53 digits above its scale. -/
theorem lt_twoTo_scaleOf (q : Nat) : q < twoTo (53 + scaleOf q) := by
  calc q < twoTo (Nat.log2 q + 1) := Nat.lt_log2_self
    _ ≤ twoTo (53 + scaleOf q) := twoTo_le (by rw [scaleOf]; omega)

/-- A number has 53 digits above a scale that is not the least one. -/
theorem twoTo_scaleOf_le (h : scaleOf q ≠ 0) : twoTo (52 + scaleOf q) ≤ q := by
  have hlog : 52 + scaleOf q = Nat.log2 q := by
    rw [scaleOf] at h ⊢
    omega
  have hq : q ≠ 0 := by
    rintro rfl
    exact h rfl
  rw [hlog]
  exact Nat.log2_self_le hq

theorem scaleOf_mono (h : q ≤ r) : scaleOf q ≤ scaleOf r := by
  rw [scaleOf, scaleOf, Nat.log2_eq_log_two, Nat.log2_eq_log_two]
  have hlog := Nat.log_mono_right (b := 2) h
  omega

/-- Rounding does not go beyond the next power of two. -/
theorem nearestQuanta_le (q : Nat) : nearestQuanta q ≤ twoTo (53 + scaleOf q) := by
  have hround : roundQuotient q (twoTo (scaleOf q)) ≤ twoTo 53 := by
    rw [← roundQuotient_mul (twoTo 53) (twoTo_pos (scaleOf q)), ← twoTo_add]
    exact roundQuotient_mono (lt_twoTo_scaleOf q).le
  rw [nearestQuanta, twoTo_add]
  exact Nat.mul_le_mul_right _ hround

/-- Rounding does not go below the last power of two. -/
theorem le_nearestQuanta (h : scaleOf q ≠ 0) : twoTo (52 + scaleOf q) ≤ nearestQuanta q := by
  have hround : twoTo 52 ≤ roundQuotient q (twoTo (scaleOf q)) := by
    rw [← roundQuotient_mul (twoTo 52) (twoTo_pos (scaleOf q)), ← twoTo_add]
    exact roundQuotient_mono (twoTo_scaleOf_le h)
  rw [nearestQuanta, twoTo_add]
  exact Nat.mul_le_mul_right _ hround

/-- **Rounding is monotone.** -/
theorem nearestQuanta_mono (h : q ≤ r) : nearestQuanta q ≤ nearestQuanta r := by
  rcases (scaleOf_mono h).lt_or_eq with hlt | heq
  · calc nearestQuanta q ≤ twoTo (53 + scaleOf q) := nearestQuanta_le q
      _ ≤ twoTo (52 + scaleOf r) := twoTo_le (by omega)
      _ ≤ nearestQuanta r := le_nearestQuanta (by omega)
  · rw [nearestQuanta, nearestQuanta, heq]
    exact Nat.mul_le_mul_right _ (roundQuotient_mono h)

/-- A number below a power of two has a scale below it. -/
theorem scaleOf_le {k : Nat} (h : q < twoTo (53 + k)) : scaleOf q ≤ k := by
  rcases Nat.eq_zero_or_pos q with rfl | hq
  · exact Nat.zero_le k
  · have hlog : Nat.log2 q < 53 + k := (Nat.log2_lt hq.ne').mpr h
    rw [scaleOf]
    omega

/-- **A number of at most 53 digits**, with zeros behind them, is not rounded. -/
theorem nearestQuanta_mul_twoTo {m : Nat} (hm : m < twoTo 53) (k : Nat) :
    nearestQuanta (m * twoTo k) = m * twoTo k := by
  have hscale : scaleOf (m * twoTo k) ≤ k := by
    refine scaleOf_le ?_
    rw [twoTo_add]
    exact Nat.mul_lt_mul_of_pos_right hm (twoTo_pos k)
  obtain ⟨zeros, hzeros⟩ := Nat.exists_eq_add_of_le hscale
  have hmul : m * twoTo k = m * twoTo zeros * twoTo (scaleOf (m * twoTo k)) := by
    conv_lhs => rw [hzeros, Nat.add_comm, twoTo_add, ← Nat.mul_assoc]
  rw [nearestQuanta]
  conv_lhs => enter [1, 1]; rw [hmul]
  rw [roundQuotient_mul _ (twoTo_pos _), ← hmul]

/-- **A value rounds to itself.** -/
theorem nearestQuanta_quanta (x : Double) : nearestQuanta x.quanta = x.quanta :=
  nearestQuanta_mul_twoTo x.canonical.1 x.scale

/-- **The same number of quanta with a sign**, rounded. -/
def nearestSigned (z : Int) : Int := if z < 0 then -(nearestQuanta z.natAbs) else nearestQuanta z.natAbs

theorem nearestSigned_mono {y z : Int} (h : y ≤ z) : nearestSigned y ≤ nearestSigned z := by
  simp only [nearestSigned]
  split <;> split
  · have hround := nearestQuanta_mono (q := z.natAbs) (r := y.natAbs) (by omega)
    omega
  · omega
  · omega
  · have hround := nearestQuanta_mono (q := y.natAbs) (r := z.natAbs) (by omega)
    omega

/-- What is not rounded without its sign is not rounded with it. -/
theorem nearestSigned_eq_self {z : Int} (h : nearestQuanta z.natAbs = z.natAbs) :
    nearestSigned z = z := by
  rw [nearestSigned, h]
  split <;> omega

theorem natAbs_signedQuanta (x : Double) : x.signedQuanta.natAbs = x.quanta := by
  rw [signedQuanta]
  split <;> omega

end Nearest

/-! ### Integers as values -/

section Integers

variable {m k : Nat} {n : Int}

/-- Parts with a full significand, or at the least scale, are those of a value. -/
theorem exists_ofParts? (negative : Bool) (hm : m ≤ twoTo 53) (hk : k < 2045) (hfull : twoTo 52 ≤ m ∨ k = 0) :
    ∃ x, ofParts? negative m k = some x ∧ x.negative = negative ∧ x.quanta = m * twoTo k := by
  rw [ofParts?]
  split
  next hcarry =>
    have hcanonical : Canonical 0x10000000000000 (k + 1) := ⟨by decide, hk, .inl le_rfl⟩
    refine ⟨_, dif_pos hcanonical, rfl, ?_⟩
    subst hcarry
    change twoTo 52 * twoTo (k + 1) = twoTo 53 * twoTo k
    rw [← twoTo_add, ← twoTo_add]
    congr 1
    omega
  next hcarry =>
    have hcanonical : Canonical m k := ⟨lt_of_le_of_ne hm hcarry, hk.le, hfull⟩
    exact ⟨_, dif_pos hcanonical, rfl, rfl⟩

/-- **An integer of the range has a nearest value.** -/
theorem exists_ofInt (h : Number.InRange n) :
    ∃ x, ofInt n = some x ∧ x.signedQuanta = nearestSigned (n * unit) := by
  have hscale : scaleOf (n.natAbs * unit) < 2045 := by
    have hbound : n.natAbs * unit ≤ twoTo 64 * unit :=
      Nat.mul_le_mul_right _ (by obtain ⟨hlow, hhigh⟩ := h; change n.natAbs ≤ 0x10000000000000000; omega)
    calc scaleOf (n.natAbs * unit) ≤ scaleOf (twoTo 64 * unit) := scaleOf_mono hbound
      _ < 2045 := by decide +kernel
  have hupper : roundQuotient (n.natAbs * unit) (twoTo (scaleOf (n.natAbs * unit))) ≤ twoTo 53 := by
    have hle := nearestQuanta_le (n.natAbs * unit)
    rw [twoTo_add] at hle
    exact Nat.le_of_mul_le_mul_right hle (twoTo_pos _)
  have hfull : twoTo 52 ≤ roundQuotient (n.natAbs * unit) (twoTo (scaleOf (n.natAbs * unit))) ∨
      scaleOf (n.natAbs * unit) = 0 := by
    by_cases hzero : scaleOf (n.natAbs * unit) = 0
    · exact .inr hzero
    · have hle := le_nearestQuanta hzero
      rw [twoTo_add] at hle
      exact .inl (Nat.le_of_mul_le_mul_right hle (twoTo_pos _))
  obtain ⟨x, hx, hnegative, hquanta⟩ :=
    exists_ofParts? (decide (n < 0)) hupper hscale hfull
  refine ⟨x, ?_, ?_⟩
  · rw [ofInt, round?]
    simpa only [Nat.div_one, Nat.one_mul, scaleOf] using hx
  · have hunit : (0 : Int) < unit := Int.natCast_pos.mpr (twoTo_pos 1074)
    have habs : (n * unit).natAbs = n.natAbs * unit := by rw [Int.natAbs_mul, Int.natAbs_natCast]
    have hsign : n * unit < 0 ↔ n < 0 := by
      rw [← not_le, ← not_le, mul_nonneg_iff_of_pos_right hunit]
    simp only [signedQuanta, hnegative, hquanta, nearestSigned, hsign, habs, decide_eq_true_eq]
    rfl

end Integers

/-- **The value of a binary64 value**, exactly. -/
def value (x : Double) : ℚ := x.signedQuanta / unit

end Double

/-! ### Numbers compared -/

namespace Number

variable {x y : Number}

/-- **The value of a number**, exactly. -/
def value : Number → ℚ
  | .integer n _ => n
  | .double x => x.value

/-- **The value that a number is rounded to** as a binary64 value. -/
def nearest (x : Number) : ℚ :=
  match x.toDouble with
  | some y => y.value
  | none => x.value

/-- An integer of the signed range. -/
def IsSigned : Number → Prop
  | .integer n _ => n < 0x8000000000000000
  | .double _ => False

/-- The value of a number in quanta, of which either kind of number has a whole number. -/
def quanta : Number → Int
  | .integer n _ => n * Double.unit
  | .double x => x.signedQuanta

theorem unit_pos : (0 : ℚ) < Double.unit := Nat.cast_pos.mpr (Double.twoTo_pos 1074)

theorem value_eq (x : Number) : x.value = x.quanta / Double.unit := by
  cases x with
  | integer n h => rw [value, quanta, Int.cast_mul, Int.cast_natCast, mul_div_cancel_right₀ _ unit_pos.ne']
  | double x => rfl

theorem value_lt_value_iff : x.value < y.value ↔ x.quanta < y.quanta := by
  rw [value_eq, value_eq, div_lt_div_iff_of_pos_right unit_pos, Int.cast_lt]

/-- **Every number has a nearest value**, that of its quanta rounded. -/
theorem exists_toDouble (x : Number) :
    ∃ y, x.toDouble = some y ∧ y.signedQuanta = Double.nearestSigned x.quanta := by
  cases x with
  | integer n h => exact Double.exists_ofInt h
  | double x =>
    refine ⟨x, rfl, (Double.nearestSigned_eq_self ?_).symm⟩
    rw [Double.natAbs_signedQuanta, Double.nearestQuanta_quanta]

theorem nearest_eq (x : Number) :
    x.nearest = (Double.nearestSigned x.quanta : ℚ) / Double.unit := by
  obtain ⟨y, hy, hquanta⟩ := exists_toDouble x
  rw [nearest, hy, ← hquanta]
  rfl

/-- **Rounding does not change sides.** -/
theorem nearest_mono (h : x.value ≤ y.value) : x.nearest ≤ y.nearest := by
  rw [← not_lt, value_lt_value_iff, not_lt] at h
  rw [nearest_eq, nearest_eq, div_le_div_iff_of_pos_right unit_pos, Int.cast_le]
  exact Double.nearestSigned_mono h

theorem nearest_double (x : Double) : (double x).nearest = x.value := rfl

/-- **An integer of at most 53 digits is its nearest value.** -/
theorem nearest_integer {n : Int} (h : InRange n) (hn : n.natAbs < 0x20000000000000) :
    (integer n h).nearest = n := by
  have hround : Double.nearestQuanta (n * Double.unit).natAbs = (n * Double.unit).natAbs := by
    rw [Int.natAbs_mul, Int.natAbs_natCast]
    exact Double.nearestQuanta_mul_twoTo hn 1074
  have hvalue := value_eq (integer n h)
  rw [nearest_eq, quanta, Double.nearestSigned_eq_self hround]
  exact hvalue.symm

theorem toSigned?_of_isSigned (h : x.IsSigned) : ∃ n : Int, x.toSigned? = some n ∧ x.value = n := by
  cases x with
  | integer n hn => exact ⟨n, if_pos h, rfl⟩
  | double x => exact h.elim

theorem toSigned?_of_not_isSigned (h : ¬x.IsSigned) : x.toSigned? = none := by
  cases x with
  | integer n hn => exact if_neg h
  | double x => rfl

/-- Numbers of which one is no signed integer are compared as they are rounded. -/
theorem exceeds_eq (h : ¬(x.IsSigned ∧ y.IsSigned)) :
    x.exceeds y = true ↔ y.nearest < x.nearest := by
  obtain ⟨a, ha, hx⟩ := exists_toDouble x
  obtain ⟨b, hb, hy⟩ := exists_toDouble y
  have hlt : b.lt a = true ↔ y.nearest < x.nearest := by
    rw [nearest_eq, nearest_eq, div_lt_div_iff_of_pos_right unit_pos, Int.cast_lt, ← hx, ← hy,
      Double.lt, decide_eq_true_iff]
  rw [exceeds, ha, hb]
  rcases not_and_or.mp h with hx | hy
  · rw [toSigned?_of_not_isSigned hx]
    exact hlt
  · rw [toSigned?_of_not_isSigned hy]
    cases x.toSigned? <;> exact hlt

/-- **A number visibly lies above another one**: it does, and rounding does not hide it. -/
def VisiblyAbove (x y : Number) : Prop :=
  y.value < x.value ∧ (x.IsSigned ∧ y.IsSigned ∨ x.nearest ≠ y.nearest)

/-- **A number exceeds another one** when it visibly lies above it. -/
theorem exceeds_iff : x.exceeds y = true ↔ x.VisiblyAbove y := by
  by_cases hsigned : x.IsSigned ∧ y.IsSigned
  · obtain ⟨m, hm, hx⟩ := toSigned?_of_isSigned hsigned.1
    obtain ⟨n, hn, hy⟩ := toSigned?_of_isSigned hsigned.2
    simp [VisiblyAbove, exceeds, hm, hn, hx, hy, hsigned]
  · rw [exceeds_eq hsigned]
    constructor
    · intro hlt
      exact ⟨not_le.mp fun hle => (nearest_mono hle).not_gt hlt, .inr hlt.ne'⟩
    · rintro ⟨hlt, hboth | hne⟩
      · exact absurd hboth hsigned
      · exact lt_of_le_of_ne (nearest_mono hlt.le) hne.symm

/-- **Numbers that are not rounded are compared exactly.** -/
theorem visiblyAbove_iff (hx : x.nearest = x.value) (hy : y.nearest = y.value) :
    x.VisiblyAbove y ↔ y.value < x.value := by
  rw [VisiblyAbove, hx, hy, and_iff_left_iff_imp]
  exact fun hlt => .inr hlt.ne'

end Number

end Blueprint
