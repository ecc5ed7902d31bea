/-!
# Finite binary64 numbers, exactly

A number that is no integer is a finite binary64 value. It is held here as its
exact value, a sign and a natural number of *quanta*, where a quantum is the least
positive value `2^-1074`: a value is `significand · 2^scale` quanta with a
significand below `2^53`. Every operation is then one of natural numbers, and
rounding is one function, `Double.round?`, which takes an exact quotient to the
nearest value and a tie to the value with the even significand.

Writing a significand that is not full only at scale `0` makes the triple unique,
so two values that differ are two different numbers, with the two zeros as the one
exception that `Double.beq` makes.
-/

namespace Blueprint

/-- A power of two. -/
def twoTo (k : Nat) : Nat := Nat.pow 2 k

/-- A power of ten. -/
def tenTo (k : Nat) : Nat := Nat.pow 10 k

/-- A significand and a scale that a binary64 value may have: the significand has
at most 53 bits, exactly 53 unless the scale is the least one, and the scale does
not pass the one of the largest finite value. -/
def Double.Canonical (significand scale : Nat) : Prop :=
  significand < 0x20000000000000 ∧ scale ≤ 2045 ∧ (0x10000000000000 ≤ significand ∨ scale = 0)

instance (significand scale : Nat) : Decidable (Double.Canonical significand scale) :=
  inferInstanceAs (Decidable (_ ∧ _ ∧ _))

/-- **A finite binary64 value**, `± significand · 2^scale` quanta of `2^-1074`. -/
structure Double where
  /-- The sign, which zero has too. -/
  negative : Bool
  /-- The digits of the value, an integer below `2^53`. -/
  significand : Nat
  /-- The power of two that the significand is multiplied by. -/
  scale : Nat
  canonical : Double.Canonical significand scale
deriving DecidableEq

namespace Double

/-- The quanta in one: a quantum is the reciprocal of this number. -/
def unit : Nat := twoTo 1074

/-- **The exact magnitude of a value**, counted in quanta. -/
def quanta (x : Double) : Nat := x.significand * twoTo x.scale

/-- The exact value, counted in quanta. -/
def signedQuanta (x : Double) : Int :=
  if x.negative then -(x.quanta : Int) else x.quanta

/-- Zero, with either sign. -/
def zero (negative : Bool) : Double := ⟨negative, 0, 0, by decide⟩

def isZero (x : Double) : Bool := x.significand == 0

/-- A value with a full significand, so neither zero nor below the least value that
has one. -/
def isNormal (x : Double) : Bool := 0x10000000000000 ≤ x.significand

/-- The magnitude without its sign. -/
def magnitude (x : Double) : Double := { x with negative := false }

/-- **Equality of values**: the two zeros are equal, any other two are equal when
they have the same parts. -/
def beq (x y : Double) : Bool :=
  (x.isZero && y.isZero) || (x.negative == y.negative && x.significand == y.significand &&
    x.scale == y.scale)

/-- The order of values. -/
def lt (x y : Double) : Bool := x.signedQuanta < y.signedQuanta

/-! ### Rounding -/

/-- The quotient of two natural numbers as the nearest integer, a half going to the
even neighbour. -/
def roundQuotient (numerator denominator : Nat) : Nat :=
  let whole := numerator / denominator
  let rest := 2 * (numerator % denominator)
  if denominator < rest ∨ (rest = denominator ∧ whole % 2 = 1) then whole + 1 else whole

/-- The value of these parts, when they are the parts of a value. A significand of
`2^53`, which is what rounding up a full one gives, is carried to the next scale. -/
def ofParts? (negative : Bool) (significand scale : Nat) : Option Double :=
  if significand = 0x20000000000000 then
    if h : Canonical 0x10000000000000 (scale + 1) then
      some ⟨negative, 0x10000000000000, scale + 1, h⟩
    else none
  else
    if h : Canonical significand scale then some ⟨negative, significand, scale, h⟩ else none

/-- **Rounding to nearest**: the value nearest to a quotient, a tie going to the even
significand, and nothing when the quotient lies beyond the largest value. -/
def round? (negative : Bool) (numerator denominator : Nat) : Option Double :=
  let quanta := numerator * unit
  let scale := Nat.log2 (quanta / denominator) + 1 - 53
  ofParts? negative (roundQuotient quanta (denominator * twoTo scale)) scale

/-- An integer as a value, rounded. -/
def ofInt (n : Int) : Option Double := round? (n < 0) n.natAbs 1

/-- The rounded product. -/
def mul? (x y : Double) : Option Double :=
  round? (x.negative != y.negative) (x.quanta * y.quanta) (unit * unit)

/-- The rounded quotient by a value that is not zero. -/
def div? (x y : Double) : Option Double :=
  round? (x.negative != y.negative) x.quanta y.quanta

/-! ### Decimal texts as values -/

/-- The digits of a natural number in base ten. -/
def decimalDigits (n : Nat) : List Char := Nat.toDigits 10 n

/-- The number that a list of decimal digits writes. -/
def readDigits (digits : List Char) : Nat :=
  digits.foldl (fun n c => 10 * n + (c.toNat - '0'.toNat)) 0

/-- **A decimal as a value**: `digits · 10^exponent`, rounded once, and nothing when it
lies beyond the largest value. An exponent far out of range decides the answer
without being computed. -/
def ofDecimal? (negative : Bool) (digits : Nat) (exponent : Int) : Option Double :=
  if digits = 0 then some (zero negative)
  else
    let length : Int := (decimalDigits digits).length
    if length + exponent < -400 then some (zero negative)
    else if 400 < length + exponent then none
    else if 0 ≤ exponent then round? negative (digits * tenTo exponent.toNat) 1
    else round? negative digits (tenTo (-exponent).toNat)

end Double

end Blueprint
