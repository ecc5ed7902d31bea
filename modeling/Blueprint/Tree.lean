import Blueprint.Number

/-!
# Trees

Every document the library reads is held as one kind of value, a `Tree`: definition
files, settings, reports, and the data that templates are expanded with. A mapping is
the list of its entries as they stand in the document, in order and with repeated keys
kept, so that whoever reads it can complain about the repetition; `Tree.get?` takes
the first entry of a key.

Traversals are three functions by plain recursion, over a tree, a list of trees and a
list of entries, which is the form proofs are stated against.
-/

namespace Blueprint

/-- **A document**: scalars, sequences, and mappings that keep their order and their
repeated keys. -/
inductive Tree where
  | null
  | boolean (value : Bool)
  | number (value : Number)
  | string (value : String)
  | sequence (items : List Tree)
  | mapping (entries : List (String × Tree))

/-- The entries of a mapping, in order. -/
abbrev Entries := List (String × Tree)

namespace Tree

instance : Inhabited Tree := ⟨.null⟩

/-! ### Shapes -/

/-- The name of a tree's shape, for messages. -/
def shape : Tree → String
  | .null => "null"
  | .boolean _ => "boolean"
  | .number _ => "number"
  | .string _ => "string"
  | .sequence _ => "sequence"
  | .mapping _ => "mapping"

def asString? : Tree → Option String
  | .string s => some s
  | _ => none

def asBoolean? : Tree → Option Bool
  | .boolean b => some b
  | _ => none

def asNumber? : Tree → Option Number
  | .number n => some n
  | _ => none

def asSequence? : Tree → Option (List Tree)
  | .sequence items => some items
  | _ => none

def asMapping? : Tree → Option Entries
  | .mapping entries => some entries
  | _ => none

/-- The first value of a key. -/
def lookup? (entries : Entries) (key : String) : Option Tree :=
  (entries.find? fun entry => entry.1 == key).map (·.2)

/-- **The first value stored under a key** of a mapping. -/
def get? (t : Tree) (key : String) : Option Tree := do
  lookup? (← t.asMapping?) key

/-- The tree reached by a list of keys. -/
def follow? (t : Tree) : List String → Option Tree
  | [] => some t
  | key :: path => do (← t.get? key).follow? path

/-- The text of a truth value. -/
def booleanText (b : Bool) : String := if b then "true" else "false"

/-- The text of a scalar that can name an entry. -/
def keyText? : Tree → Option String
  | .string s => some s
  | .boolean b => some (booleanText b)
  | .number n => some n.text
  | _ => none

/-! ### Equality -/

mutual

/-- **Equality of trees**: the same shape all through, entries in the same order, and
numbers equal as numbers. -/
def beq : Tree → Tree → Bool
  | .null, .null => true
  | .boolean a, .boolean b => a == b
  | .number m, .number n => m.beq n
  | .string s, .string t => s == t
  | .sequence xs, .sequence ys => beqItems xs ys
  | .mapping xs, .mapping ys => beqEntries xs ys
  | _, _ => false

/-- Equality of lists of trees. -/
def beqItems : List Tree → List Tree → Bool
  | [], [] => true
  | x :: xs, y :: ys => x.beq y && beqItems xs ys
  | _, _ => false

/-- Equality of lists of entries. -/
def beqEntries : List (String × Tree) → List (String × Tree) → Bool
  | [], [] => true
  | (k, x) :: xs, (l, y) :: ys => k == l && x.beq y && beqEntries xs ys
  | _, _ => false

end

instance : BEq Tree := ⟨beq⟩

end Tree

end Blueprint
