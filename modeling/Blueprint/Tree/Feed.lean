import Blueprint.Tree

/-!
# What a document offers, and the tree it becomes

A reader of some format sees more than a tree can hold: integers of 128 bits with or
without a sign, raw bytes, numbers that are not finite, optional values, values behind the
word of a choice or inside a wrapper, and mappings whose keys are themselves documents. A
`Feed` is such an offer, and `Feed.toTree` takes it or refuses it with the first fault,
depth first and from left to right. In an entry the key is read, then the value, and only
then is the shape of the key judged, so a fault inside a value comes before the complaint
about its own key.
-/

namespace Blueprint

/-- A binary64 value that need not be finite. -/
inductive FeedDouble where
  | finite (value : Double)
  | infinite (negative : Bool)
  | notANumber

/-- **What a reader offers.** -/
inductive Feed where
  | null
  | boolean (value : Bool)
  | integer (value : Int) (inRange : Number.InRange value)
  | wideInteger (value : Int)
  | wideNatural (value : Nat)
  | double (value : FeedDouble)
  | string (value : String)
  | bytes (value : String)
  | missing
  | present (value : Feed)
  /-- The word of a choice with a value behind it, such as a tag. Nobody looks at either. -/
  | choice
  /-- A value inside a wrapper that has a name. Nobody looks at it. -/
  | wrapped
  | sequence (items : List Feed)
  | mapping (entries : List (Feed × Feed))

instance : Inhabited Feed := ⟨.null⟩

/-- Why an offer is refused. -/
inductive FeedError where
  | wideInteger (value : Int)
  | wideNatural (value : Nat)
  | bytes
  | choice
  | wrapped
  | notFinite (text : String)
  | keyShape (shape : String)
deriving DecidableEq

/-- The wording of a refusal of something that no tree can be. -/
def unexpected (found : String) : String :=
  "invalid type: " ++ found ++ ", expected a scalar, a sequence or a mapping"

/-- The wording of a refusal. -/
def FeedError.message : FeedError → String
  | .wideInteger value => unexpected ("integer `" ++ Number.integerText value ++ "` as i128")
  | .wideNatural value => unexpected ("integer `" ++ naturalText value ++ "` as u128")
  | .bytes => unexpected "byte array"
  | .choice => unexpected "enum"
  | .wrapped => unexpected "newtype struct"
  | .notFinite text => "non-finite number " ++ text
  | .keyShape shape => "mapping key must be a scalar, found " ++ shape

namespace Feed

mutual

/-- **The tree of an offer**, or its first fault. -/
def toTree : Feed → Except FeedError Tree
  | .null => .ok .null
  | .boolean b => .ok (.boolean b)
  | .integer n h => .ok (.number (.integer n h))
  | .wideInteger n => .error (.wideInteger n)
  | .wideNatural n => .error (.wideNatural n)
  | .double (.finite x) => .ok (.number (.double x))
  | .double (.infinite negative) => .error (.notFinite (if negative then "-inf" else "inf"))
  | .double .notANumber => .error (.notFinite "NaN")
  | .string s => .ok (.string s)
  | .bytes _ => .error .bytes
  | .missing => .ok .null
  | .present f => f.toTree
  | .choice => .error .choice
  | .wrapped => .error .wrapped
  | .sequence items => (toItems items).map .sequence
  | .mapping entries => (toEntries entries).map .mapping

/-- The trees of a list of offers, or the first fault of one. -/
def toItems : List Feed → Except FeedError (List Tree)
  | [] => .ok []
  | f :: rest => do
    let t ← f.toTree
    let ts ← toItems rest
    return t :: ts

/-- The entries of offered pairs: key, value, and then the key's shape. -/
def toEntries : List (Feed × Feed) → Except FeedError (List (String × Tree))
  | [] => .ok []
  | (k, v) :: rest => do
    let key ← k.toTree
    let value ← v.toTree
    match key.keyText? with
    | none => .error (.keyShape key.shape)
    | some name =>
      let entries ← toEntries rest
      return (name, value) :: entries

end

end Feed

end Blueprint
