import Blueprint.Number.Double

/-!
# Decimal texts of binary64 values

A value is written with the fewest digits that read back as that value, and of
those with the ones nearest to it. The values that round to a given value are an
interval, whose ends belong to it when the significand is even, so the search is
one over decimal grids: on the grid of `1, 2, …, 17` digits the value has a
neighbour on either side, and the first grid with a neighbour in the interval gives
the digits (`Double.shortest`).

How digits and exponent are laid out as text is `Double.text`, which leaves the
positional form outside `10^-5 ≤ |x| < 10^16`.
-/

namespace Blueprint

namespace Double

/-! ### The interval of a value -/

/-- The quarter quanta from a value down to the end of its interval: half the
distance to the value below, which is nearer under a power of two. -/
def lowerReach (x : Double) : Nat :=
  if x.significand = 0x10000000000000 ∧ x.scale ≠ 0 then twoTo x.scale else 2 * twoTo x.scale

/-- The quarter quanta from a value up to the end of its interval. -/
def upperReach (x : Double) : Nat := 2 * twoTo x.scale

/-- A decimal grid: its points are the multiples of `10^exponent`, and they are
compared with quarter quanta after multiplying the points by `point` and the quanta
by `quarter`. -/
structure Grid where
  exponent : Int
  point : Nat
  quarter : Nat

/-- The grid of the multiples of `10^exponent`. -/
def Grid.ofExponent (exponent : Int) : Grid :=
  ⟨exponent, 4 * unit * tenTo exponent.toNat, tenTo (-exponent).toNat⟩

/-- The point number `k` of the grid rounds to `x`. -/
def Grid.readsBack (g : Grid) (x : Double) (k : Nat) : Bool :=
  let low := (4 * x.quanta - x.lowerReach) * g.quarter
  let high := (4 * x.quanta + x.upperReach) * g.quarter
  if x.significand % 2 = 0 then low ≤ k * g.point ∧ k * g.point ≤ high
  else low < k * g.point ∧ k * g.point < high

/-- **The nearest point of the grid that reads back**, a tie going to the even
point. -/
def Grid.nearest? (g : Grid) (x : Double) : Option Nat :=
  let value := 4 * x.quanta * g.quarter
  let k := value / g.point
  let below := value - k * g.point
  let above := (k + 1) * g.point - value
  match g.readsBack x k, g.readsBack x (k + 1) with
  | true, true =>
    if below < above ∨ (below = above ∧ k % 2 = 0) then some k else some (k + 1)
  | true, false => some k
  | false, true => some (k + 1)
  | false, false => none

/-! ### The shortest digits -/

/-- The position of the first digit: `10^(position - 1) ≤ |x| < 10^position`. -/
def leadingPosition (x : Double) : Int :=
  (decimalDigits (x.quanta * tenTo 400 / unit)).length - 400

/-- A natural number without its trailing zeros, and how many there were. -/
def dropZeros : Nat → Nat → Nat × Nat
  | 0, n => (n, 0)
  | fuel + 1, n =>
    if n ≠ 0 ∧ n % 10 = 0 then
      let (m, k) := dropZeros fuel (n / 10)
      (m, k + 1)
    else (n, 0)

/-- **The shortest decimal of a value**: digits and exponent of the decimal with the
fewest digits that reads back as the magnitude of the value. -/
def shortest (x : Double) : Nat × Int :=
  let position := x.leadingPosition
  let candidate (count : Nat) : Option (Nat × Int) :=
    let g := Grid.ofExponent (position - count)
    (g.nearest? x).map fun k => (k, g.exponent)
  let found := ((List.range 17).map (· + 1)).findSome? candidate
  let (digits, exponent) := found.getD (0, 0)
  let (digits, zeros) := dropZeros 17 digits
  (digits, exponent + zeros)

/-! ### Layout -/

/-- A run of zeros. -/
def zeros (n : Nat) : List Char := List.replicate n '0'

/-- **Digits as text**: positional with at least one digit on either side of the
point while the first digit stands from five places after the point to sixteen before
it, and otherwise with an exponent that has a sign. -/
def layout (digits : List Char) (exponent : Int) : List Char :=
  let position := exponent + digits.length
  if 0 ≤ exponent ∧ position ≤ 16 then
    digits ++ zeros exponent.toNat ++ ['.', '0']
  else if 0 < position ∧ position ≤ 16 then
    digits.take position.toNat ++ '.' :: digits.drop position.toNat
  else if -5 < position ∧ position ≤ 0 then
    '0' :: '.' :: (zeros (-position).toNat ++ digits)
  else
    let power := position - 1
    let mark := 'e' :: (if power < 0 then '-' else '+') :: decimalDigits power.natAbs
    digits.take 1 ++ (if digits.length ≤ 1 then [] else '.' :: digits.drop 1) ++ mark

/-- **The text of a value**: its shortest digits, laid out, after the sign. -/
def text (x : Double) : String :=
  let body :=
    if x.isZero then ['0', '.', '0']
    else
      let (digits, exponent) := x.shortest
      layout (decimalDigits digits) exponent
  String.ofList (if x.negative then '-' :: body else body)

end Double

end Blueprint
