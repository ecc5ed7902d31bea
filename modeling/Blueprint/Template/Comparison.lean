import Blueprint.Tree
import Blueprint.Number.Reading

/-!
# Comparing the values of templates

Two values are **the same** (`Tree.same`) when they are equal as trees, save that the
order of the entries of a mapping does not count. Two values have an **order**
(`Tree.compare?`) when both are numbers, texts or truth values, or when one is a number
and the other is a text that can be read as one.

Numbers are compared by their exact values, so an integer and a binary64 value can be
told apart wherever they differ. A text is rounded to a binary64 value first, and so is a
number that is compared with a text.
-/

namespace Blueprint

/-! ### Sameness -/

namespace Tree

mutual

/-- **Two values are the same**, the order of entries aside. -/
def same : Tree → Tree → Bool
  | .null, .null => true
  | .boolean a, .boolean b => a == b
  | .number m, .number n => m.beq n
  | .string s, .string t => s == t
  | .sequence xs, .sequence ys => sameItems xs ys
  | .mapping xs, .mapping ys => xs.length == ys.length && sameEntries xs ys
  | _, _ => false

/-- Two lists have the same items. -/
def sameItems : List Tree → List Tree → Bool
  | [], [] => true
  | x :: xs, y :: ys => x.same y && sameItems xs ys
  | _, _ => false

/-- Each entry has the same value in a mapping. -/
def sameEntries : Entries → Entries → Bool
  | [], _ => true
  | (key, x) :: xs, ys =>
    (match lookup? ys key with
      | some y => x.same y
      | none => false) && sameEntries xs ys

end

end Tree

/-! ### Order -/

/-- A number that may be infinite: its exact value in quanta, or a sign. -/
inductive Magnitude where
  | finite (quanta : Int)
  | infinite (negative : Bool)

/-- The order of numbers, the infinite ones at the two ends. -/
def Magnitude.compare : Magnitude → Magnitude → Ordering
  | .finite m, .finite n => Ord.compare m n
  | .finite _, .infinite negative => if negative then .gt else .lt
  | .infinite negative, .finite _ => if negative then .lt else .gt
  | .infinite m, .infinite n => Ord.compare n m

/-- The exact value of a number. -/
def Number.magnitude : Number → Magnitude
  | .integer n _ => .finite (n * Double.unit)
  | .double x => .finite x.signedQuanta

/-- A rounded number, infinite if there is no finite value for it. -/
def Magnitude.ofDouble (negative : Bool) : Option Double → Magnitude
  | some x => .finite x.signedQuanta
  | none => .infinite negative

/-- The words for an infinite number. -/
def isInfinityWord (cs : List Char) : Bool :=
  let word := String.ofList (cs.map Char.toLower)
  word == "inf" || word == "infinity"

/-- **The number that a text is.** -/
def readMagnitude? (s : String) : Option Magnitude :=
  match readDecimal? s.toList with
  | some d => some (.ofDouble d.negative d.toDouble?)
  | none =>
    let (negative, word) := takeSign s.toList
    if isInfinityWord word then some (.infinite negative) else none

/-- The order of a number and a text. -/
def compareNumberText? (n : Number) (s : String) : Option Ordering :=
  (readMagnitude? s).map (Magnitude.ofDouble false n.toDouble).compare

/-- **The order of two values**, if they have one. -/
def Tree.compare? : Tree → Tree → Option Ordering
  | .number m, .number n => some (m.magnitude.compare n.magnitude)
  | .string s, .string t => some (Ord.compare s t)
  | .boolean a, .boolean b => some (Ord.compare a b)
  | .number n, .string s => compareNumberText? n s
  | .string s, .number n => (compareNumberText? n s).map Ordering.swap
  | _, _ => none

end Blueprint
