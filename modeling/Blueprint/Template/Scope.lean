import Blueprint.Template.Expression
import Blueprint.Template.Fault
import Blueprint.Number.Reading

/-!
# What an expression of a template sees

An expression stands in a `Scope`: the data of the whole template and a `Frame` for each
block around it that has a value of its own. A frame knows that value, the variables of
its loop, and the names it gives to its values. A path is resolved from there
(`Scope.resolve`); a value that is not there is an answer, not a fault.

A path that starts with a name given by a block around it means that value, whichever
block is nearest, and the steps up before it mean nothing then.
-/

namespace Blueprint

/-- **What one block adds to what is seen.** -/
structure Frame where
  /-- The value that the block is about. -/
  value : Tree
  /-- The variables of a loop. -/
  locals : Entries
  /-- The names that the block gives to values. -/
  bindings : Entries

/-- **The place of an expression**: the blocks around it, from the inside to the outside.
The last of them is the template itself. -/
structure Scope where
  /-- The data of the template. -/
  data : Tree
  frame : Frame
  outer : List Frame

namespace Scope

/-- The scope of the template itself. -/
def ofData (data : Tree) : Scope := ⟨data, ⟨data, [], []⟩, []⟩

/-- The scope inside a block. -/
def enter (s : Scope) (frame : Frame) : Scope := ⟨s.data, frame, s.frame :: s.outer⟩

/-- All frames, from the inside to the outside. -/
def frames (s : Scope) : List Frame := s.frame :: s.outer

/-- The frame so many steps up, and the innermost one if there are not that many. -/
def frameAt (s : Scope) (up : Nat) : Frame := s.frames[up]?.getD s.frame

/-- The value that a block gives a name to, the innermost block first. -/
def binding? (s : Scope) (name : String) : Option Tree :=
  s.frames.findSome? fun frame => Tree.lookup? frame.bindings name

end Scope

namespace Tree

/-- The position that a key is, if it is one: digits, below `2^64`, perhaps with a plus
sign. -/
def readPosition? (key : String) : Option Nat :=
  let digits := match key.toList with
    | '+' :: digits => digits
    | digits => digits
  (readNatural? 10 digits).filter fun n => n < 0x10000000000000000

/-- **The value at a key**: at a position of a sequence, or under a name in a mapping. A
scalar has none. -/
def at? (t : Tree) (key : String) : Except TemplateFault (Option Tree) :=
  match t with
  | .sequence items =>
    match readPosition? key with
    | some n => .ok items[n]?
    | none => .error .notAPosition
  | .mapping entries => .ok (lookup? entries key)
  | _ => .ok none

/-- The value at the end of a list of keys. -/
def walk? (t : Tree) : List String → Except TemplateFault (Option Tree)
  | [] => .ok (some t)
  | key :: keys =>
    match t.at? key with
    | .ok (some inner) => inner.walk? keys
    | result => result

end Tree

/-- **The value of a path.** -/
def Scope.resolve (s : Scope) : DataPath → Except TemplateFault (Option Tree)
  | .loopVariable level name =>
    .ok (s.frames[level]?.bind fun frame => Tree.lookup? frame.locals name)
  | .root keys => s.data.walk? keys
  | .relative up keys =>
    match keys with
    | [] => .ok (some (s.frameAt up).value)
    | key :: rest =>
      match s.binding? key with
      | some value => value.walk? rest
      | none => (s.frameAt up).value.walk? keys

/-! ### Values -/

namespace Tree

/-- **A value that counts as true**: a truth value that is, a text or a collection that is
not empty, a number that is not zero (and not below the least full one). -/
def isTruthy (includeZero : Bool) : Tree → Bool
  | .null => false
  | .boolean b => b
  | .number n => includeZero || (n.toDouble.map Double.isNormal).getD false
  | .string s => !s.isEmpty
  | .sequence items => !items.isEmpty
  | .mapping entries => !entries.isEmpty

mutual

/-- **The text that a value is printed as.** -/
def printed : Tree → String
  | .null => ""
  | .boolean b => booleanText b
  | .number n => n.text
  | .string s => s
  | .sequence items => "[" ++ printedItems items ++ "]"
  | .mapping _ => "[object]"

/-- The items of a sequence, separated by commas. -/
def printedItems : List Tree → String
  | [] => ""
  | [item] => item.printed
  | item :: items => item.printed ++ ", " ++ printedItems items

end

end Tree

end Blueprint
