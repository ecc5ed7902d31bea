import Blueprint.Number.Decimal

/-!
# Numbers of a definition

A number is an integer of the range that 64 bits hold, with or without a sign, or a
finite binary64 value. The two kinds never mix: `1` and `1.0` are different numbers
with different texts, and an integer beyond the range is read as a binary64 value,
never rounded silently inside the integers.

Values of different kinds are ordered by `Number.exceeds`, which compares two
integers of the signed range exactly and everything else as binary64 values.
-/

namespace Blueprint

/-- The integers that a number holds: those of 64 bits, signed or unsigned. -/
def Number.InRange (n : Int) : Prop := -0x8000000000000000 ≤ n ∧ n < 0x10000000000000000

instance (n : Int) : Decidable (Number.InRange n) := inferInstanceAs (Decidable (_ ∧ _))

/-- **A number**: an integer of at most 64 bits or a finite binary64 value. -/
inductive Number where
  | integer (value : Int) (inRange : Number.InRange value)
  | double (value : Double)
deriving DecidableEq

/-- A word of 64 bits as a number. -/
def wordNumber (n : UInt64) : Number :=
  .integer n.toNat ⟨by omega, by have h := n.toNat_lt; omega⟩

/-- The text of a natural number, in base ten. -/
def naturalText (n : Nat) : String := String.ofList (Double.decimalDigits n)

namespace Number

/-- The integer as a number, when it is in range. -/
def ofInt? (n : Int) : Option Number :=
  if h : InRange n then some (.integer n h) else none

/-- The integer that a number is, if it is one below `2^64` and not negative. -/
def toNat? : Number → Option Nat
  | .integer n _ => if 0 ≤ n then some n.toNat else none
  | .double _ => none

/-- The text of an integer, in base ten. -/
def integerText (n : Int) : String :=
  if n < 0 then "-" ++ naturalText n.natAbs else naturalText n.natAbs

/-- **The text of a number**: the digits of an integer, the shortest decimal of a
binary64 value. -/
def text : Number → String
  | .integer n _ => integerText n
  | .double x => x.text

/-- **Equality of numbers**: of one kind and of one value. -/
def beq : Number → Number → Bool
  | .integer m _, .integer n _ => m == n
  | .double x, .double y => x.beq y
  | _, _ => false

instance : BEq Number := ⟨beq⟩

/-- The binary64 value nearest to a number. -/
def toDouble : Number → Option Double
  | .integer n _ => Double.ofInt n
  | .double x => some x

/-- An integer of the signed range. -/
def toSigned? : Number → Option Int
  | .integer n _ => if n < 0x8000000000000000 then some n else none
  | .double _ => none

/-- **One bound lies above another**: exactly when both are integers of the signed
range, and after rounding to binary64 otherwise. -/
def exceeds (x y : Number) : Bool :=
  match x.toSigned?, y.toSigned? with
  | some m, some n => n < m
  | _, _ =>
    match x.toDouble, y.toDouble with
    | some a, some b => b.lt a
    | _, _ => false

end Number

end Blueprint
