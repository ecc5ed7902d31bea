import Blueprint.Tree

/-!
# Templates as trees of elements

A template is text with *tags* in it, from two opening braces to two closing ones. Its
meaning is a list of `TemplateElement`s: text, values to print, and blocks, which hold
elements themselves. Values are given by expressions: literals, paths into the data, and
calls of helpers, which may stand inside one another.

A call may name its helper by a path, since a tag with a single name in it is a call when
a helper has that name and a value otherwise; so every path keeps the text it was
written as.
-/

namespace Blueprint

/-- **A path into the data of a template.** -/
inductive DataPath where
  /-- A variable of a loop, so many loops further out. -/
  | loopVariable (level : Nat) (name : String)
  /-- Keys from the root of all data. -/
  | root (keys : List String)
  /-- Keys from the value that the block so many levels further out is about. -/
  | relative (up : Nat) (keys : List String)

mutual

/-- **An expression of a template.** -/
inductive Expression where
  | literal (value : Tree)
  | path (text : String) (path : DataPath)
  | call (call : Call)

/-- **A call**: what is called, its arguments in order, and its named arguments. -/
inductive Call where
  | mk (head : Head) (arguments : List Expression) (named : List (String × Expression))

/-- What a call names: a helper, or something that may be one. -/
inductive Head where
  | name (text : String)
  | path (text : String) (path : DataPath)
  | call (call : Call)

end

namespace Call

def head : Call → Head
  | .mk head _ _ => head

def arguments : Call → List Expression
  | .mk _ arguments _ => arguments

def named : Call → List (String × Expression)
  | .mk _ _ named => named

/-- Nothing but a name, so possibly no call at all. -/
def isBare (c : Call) : Bool := c.arguments.isEmpty && c.named.isEmpty

end Call

/-- The first line of a block: the call, and the names that the block gives to the values
it is about. -/
structure BlockHead where
  name : String
  arguments : List Expression
  named : List (String × Expression)
  bindings : List String

/-- **An element of a template.** The part of a block after its `else` is empty when it
has none, which `hasElse` tells apart from one that is there and empty. -/
inductive TemplateElement where
  | text (value : String)
  | output (call : Call)
  | inclusion
  | block (head : BlockHead) (body : List TemplateElement) (hasElse : Bool)
      (otherwise : List TemplateElement)

end Blueprint
