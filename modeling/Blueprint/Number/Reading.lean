import Blueprint.Number

/-!
# Reading numbers from texts

A decimal is an optional sign, digits with at most one point among or beside them, and
an optional exponent; at least one digit stands outside the exponent. It is rounded
once, to the nearest binary64 value. An integer is digits of some base and nothing
else, without a bound.
-/

namespace Blueprint

/-! ### Integers -/

/-- The value of a digit, of any base up to thirty-six. -/
def digitOf? (base : Nat) (c : Char) : Option Nat :=
  let value :=
    if c.isDigit then some (c.toNat - '0'.toNat)
    else if 'a' ≤ c ∧ c ≤ 'z' then some (c.toNat - 'a'.toNat + 10)
    else if 'A' ≤ c ∧ c ≤ 'Z' then some (c.toNat - 'A'.toNat + 10)
    else none
  value.filter fun v => v < base

/-- **A natural number in a base**: one digit or more. -/
def readNatural? (base : Nat) : List Char → Option Nat
  | [] => none
  | digits => digits.foldlM (fun n c => (digitOf? base c).map (base * n + ·)) 0

/-! ### Decimals -/

/-- A decimal as written: `± digits · 10^exponent`. -/
structure Decimal where
  negative : Bool
  digits : Nat
  exponent : Int

/-- A sign, if there is one, and what follows it. -/
def takeSign : List Char → Bool × List Char
  | '+' :: cs => (false, cs)
  | '-' :: cs => (true, cs)
  | cs => (false, cs)

/-- The exponent at the end of a decimal, if there is one. -/
def readExponent? : List Char → Option Int
  | [] => some 0
  | mark :: cs =>
    if mark = 'e' ∨ mark = 'E' then do
      let (negative, cs) := takeSign cs
      let n ← readNatural? 10 cs
      return if negative then -(n : Int) else n
    else none

/-- **A decimal text.** -/
def readDecimal? (cs : List Char) : Option Decimal := do
  let (negative, cs) := takeSign cs
  let whole := cs.takeWhile Char.isDigit
  let cs := cs.dropWhile Char.isDigit
  let (fraction, cs) := match cs with
    | '.' :: cs => (cs.takeWhile Char.isDigit, cs.dropWhile Char.isDigit)
    | cs => ([], cs)
  if whole.isEmpty && fraction.isEmpty then none
  else do
    let exponent ← readExponent? cs
    return ⟨negative, Double.readDigits (whole ++ fraction), exponent - fraction.length⟩

/-- The binary64 value nearest to a decimal, when it is finite. -/
def Decimal.toDouble? (d : Decimal) : Option Double :=
  Double.ofDecimal? d.negative d.digits d.exponent

end Blueprint
