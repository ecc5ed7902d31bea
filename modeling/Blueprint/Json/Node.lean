import Blueprint.Tree

/-!
# JSON documents as written

A JSON text is read in two steps. The grammar alone gives a `Json.Node`: the nesting,
the strings with their escapes resolved, and the number literals digit by digit. What
a node means is decided afterwards, by `Json.Node.toTree?`, and only for the parts
that somebody asks for: a number too large for a binary64 value, a string with half a
surrogate pair and nesting beyond 127 levels are grammatical, and are errors in a
value that is used but not in one that is passed over.

The value of a literal that is no integer is `Json.Literal.toNumber?`. It takes as
many digits as 64 bits hold, rounds that integer, and scales it by one rounded power
of ten, so it may differ from the nearest binary64 value in the last place.
-/

namespace Blueprint

namespace Json

/-! ### Number literals -/

/-- The exponent of a number literal: its sign and its digits. -/
structure Exponent where
  negative : Bool
  digits : List Char

/-- **A number literal**, digit by digit. The fraction and the exponent may be
missing; when the point is there, so is a digit after it. -/
structure Literal where
  negative : Bool
  whole : List Char
  fraction : Option (List Char)
  exponent : Option Exponent

/-- The value of a decimal digit. -/
def digitValue (c : Char) : Nat := c.toNat - '0'.toNat

/-- The digits of an integer taken while they fit 64 bits, and the number of those
left over. -/
def takeWhole (n : Nat) : List Char → Nat × Nat
  | [] => (n, 0)
  | c :: cs =>
    if 10 * n + digitValue c < 0x10000000000000000 then takeWhole (10 * n + digitValue c) cs
    else (n, cs.length + 1)

/-- The digits of a fraction taken after an integer while the whole fits 64 bits, and
how many were taken. -/
def takeFraction (n : Nat) : List Char → Nat × Nat
  | [] => (n, 0)
  | c :: cs =>
    if 10 * n + digitValue c < 0x10000000000000000 then
      let (m, k) := takeFraction (10 * n + digitValue c) cs
      (m, k + 1)
    else (n, 0)

/-- A power of ten as the nearest binary64 value. -/
def powerOfTen? (k : Nat) : Option Double := Double.round? false (tenTo k) 1

/-- **An integer scaled by a power of ten**, the power being one of those up to
`10^308`; a smaller exponent divides by `10^308` first, as long as something is
left. -/
def scale? (x : Double) (exponent : Int) : Nat → Option Double
  | 0 => some x
  | fuel + 1 =>
    if exponent.natAbs ≤ 308 then do
      let power ← powerOfTen? exponent.natAbs
      if 0 ≤ exponent then x.mul? power else x.div? power
    else if x.isZero then some x
    else if 0 ≤ exponent then none
    else do
      let power ← powerOfTen? 308
      scale? (← x.div? power) (exponent + 308) fuel

/-- The sign put on a magnitude. -/
def signed (negative : Bool) (x : Double) : Double := { x with negative := negative }

/-- The binary64 value of a significand, the exponent that its digits imply, and the
exponent that the literal writes. An exponent beyond 31 bits decides the answer by its
sign. -/
def doubleOf? (negative : Bool) (significand : Nat) (implied : Int) (written : Option Exponent) :
    Option Double := do
  let value ← Double.round? false significand 1
  match written with
  | none => (scale? value implied 8).map (signed negative)
  | some e =>
    let power := Double.readDigits e.digits
    if 0x80000000 ≤ power then
      if significand ≠ 0 ∧ ¬ e.negative then none else some (Double.zero negative)
    else
      (scale? value (if e.negative then implied - power else implied + power) 8).map
        (signed negative)

namespace Literal

/-- A literal without point and exponent. -/
def isInteger (l : Literal) : Bool := l.fraction.isNone && l.exponent.isNone

/-- The literal as a binary64 value. -/
def toDouble? (l : Literal) : Option Double :=
  let (significand, left) := takeWhole 0 l.whole
  match l.fraction with
  | none => doubleOf? l.negative significand left l.exponent
  | some digits =>
    let (significand, taken) := takeFraction significand digits
    doubleOf? l.negative significand ((left : Int) - taken) l.exponent

/-- **The number of a literal**: an integer when it is written as one and fits 64 bits,
with minus zero as the exception, and a binary64 value otherwise. -/
def toNumber? (l : Literal) : Option Number :=
  let n := Double.readDigits l.whole
  let value : Int := if l.negative then -n else n
  if h : l.isInteger ∧ ¬ (l.negative ∧ n = 0) ∧ Number.InRange value then
    some (.integer value h.2.2)
  else
    l.toDouble?.map .double

end Literal

/-! ### Nodes -/

/-- **A JSON document as written.** A string is `none` when an escape leaves half a
surrogate pair. -/
inductive Node where
  | null
  | boolean (value : Bool)
  | number (literal : Literal)
  | string (text : Option String)
  | array (items : List Node)
  | object (members : List (Option String × Node))

namespace Node

mutual

/-- **The tree of a node**, with at most `room` levels of nesting. -/
def toTree? (room : Nat) : Node → Option Tree
  | .null => some .null
  | .boolean b => some (.boolean b)
  | .number l => l.toNumber?.map .number
  | .string s => s.map .string
  | .array items =>
    match room with
    | 0 => none
    | room + 1 => (toItems? room items).map .sequence
  | .object members =>
    match room with
    | 0 => none
    | room + 1 => (toEntries? room members).map .mapping

/-- The trees of a list of nodes. -/
def toItems? (room : Nat) : List Node → Option (List Tree)
  | [] => some []
  | n :: rest => do
    let t ← n.toTree? room
    let ts ← toItems? room rest
    return t :: ts

/-- The entries of the members of an object. -/
def toEntries? (room : Nat) : List (Option String × Node) → Option (List (String × Tree))
  | [] => some []
  | (name, n) :: rest => do
    let name ← name
    let t ← n.toTree? room
    let ts ← toEntries? room rest
    return (name, t) :: ts

end

/-- The levels of nesting that a document may have. -/
def maxDepth : Nat := 127

end Node

end Json

end Blueprint
