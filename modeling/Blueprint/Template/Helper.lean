import Blueprint.Render.Options
import Blueprint.Template.Comparison
import Blueprint.Template.Scope

/-!
# Helpers

A helper is what a call calls. There are three kinds: a **block helper** decides what its
block expands to and has no value; a **value helper** computes a value of its arguments;
a **naming helper** writes a name in a style.

| helper | meaning |
|---|---|
| `each`, `with`, `if`, `unless` | loops, contexts and conditions |
| `raw`, `log` | the block as it is; nothing at all |
| `lookup` | the item of a collection at a key |
| `eq`, `ne`, `gt`, `gte`, `lt`, `lte` | comparisons |
| `and`, `or`, `not` | conditions of conditions |
| `len` | the size of a collection, or of a text in bytes |
| `kebabCase`, `snakeCase`, … | names in a style |
-/

namespace Blueprint

/-- A helper that decides what its block expands to. -/
inductive BlockHelper where
  | each
  | within
  | condition (wanted : Bool)
  | raw
  | log
deriving DecidableEq

/-- Comparisons by the order of values. -/
inductive OrderTest where
  | greater
  | greaterOrEqual
  | less
  | lessOrEqual
deriving DecidableEq

/-- The orders that pass a test. -/
def OrderTest.accepts : OrderTest → Ordering → Bool
  | .greater, order => order == .gt
  | .greaterOrEqual, order => order != .lt
  | .less, order => order == .lt
  | .lessOrEqual, order => order != .gt

/-- The name of a test in templates. -/
def OrderTest.name : OrderTest → String
  | .greater => "gt"
  | .greaterOrEqual => "gte"
  | .less => "lt"
  | .lessOrEqual => "lte"

/-- A helper that computes a value. -/
inductive ValueHelper where
  | lookup
  | sameness (wanted : Bool)
  | order (test : OrderTest)
  | both
  | either
  | negation
  | length
deriving DecidableEq

/-- **A helper.** -/
inductive Helper where
  | block (helper : BlockHelper)
  | value (helper : ValueHelper)
  | naming (style : NamingStyle)
deriving DecidableEq

/-! ### Names -/

/-- The name of the helper that writes a style. -/
def NamingStyle.helperName : NamingStyle → String
  | .kebab => "kebabCase"
  | .snake => "snakeCase"
  | .upperKebab => "upperKebabCase"
  | .upperSnake => "upperSnakeCase"
  | .pascal => "pascalCase"
  | .camel => "camelCase"

/-- All styles. -/
def NamingStyle.all : List NamingStyle :=
  [.kebab, .snake, .upperKebab, .upperSnake, .pascal, .camel]

/-- The style that a naming gives to the helper of another one: the same, or the other upper
case style in the legacy naming. -/
def CaseNaming.style : CaseNaming → NamingStyle → NamingStyle
  | .legacy, .upperKebab => .upperSnake
  | .legacy, .upperSnake => .upperKebab
  | _, style => style

/-- The naming helper of a name. -/
def NamingStyle.ofHelperName? (naming : CaseNaming) (name : String) : Option NamingStyle :=
  (NamingStyle.all.find? fun style => style.helperName == name).map naming.style

/-- The block helper of a name. -/
def BlockHelper.ofName? : String → Option BlockHelper
  | "each" => some .each
  | "with" => some .within
  | "if" => some (.condition true)
  | "unless" => some (.condition false)
  | "raw" => some .raw
  | "log" => some .log
  | _ => none

/-- The value helper of a name. -/
def ValueHelper.ofName? : String → Option ValueHelper
  | "lookup" => some .lookup
  | "eq" => some (.sameness true)
  | "ne" => some (.sameness false)
  | "gt" => some (.order .greater)
  | "gte" => some (.order .greaterOrEqual)
  | "lt" => some (.order .less)
  | "lte" => some (.order .lessOrEqual)
  | "and" => some .both
  | "or" => some .either
  | "not" => some .negation
  | "len" => some .length
  | _ => none

/-- **The helper of a name**, under a naming. -/
def Helper.ofName? (naming : CaseNaming) (name : String) : Option Helper :=
  ((BlockHelper.ofName? name).map .block) <|> ((ValueHelper.ofName? name).map .value) <|>
    ((NamingStyle.ofHelperName? naming name).map .naming)

/-- The name of a value helper. -/
def ValueHelper.name : ValueHelper → String
  | .lookup => "lookup"
  | .sameness wanted => if wanted then "eq" else "ne"
  | .order test => test.name
  | .both => "and"
  | .either => "or"
  | .negation => "not"
  | .length => "len"

/-! ### Arguments -/

/-- **The arguments of a call**, as values. A value that is not there is none. -/
structure Arguments where
  inOrder : List (Option Tree)
  named : List (String × Option Tree)

/-- The argument at a position. A value that is not there counts as null. -/
def Arguments.require (a : Arguments) (helper : String) (position : Nat) :
    Except TemplateFault Tree :=
  match a.inOrder[position]? with
  | some value => .ok (value.getD .null)
  | none => .error (.missingArgument helper position)

/-- The operand at a position, which strict expansion wants to be there. -/
def Arguments.operand (a : Arguments) (strict : Bool) (helper : ValueHelper) (position : Nat)
    (operand : String) : Except TemplateFault Tree :=
  match a.inOrder[position]? with
  | some (some value) => .ok value
  | some none => if strict then .error (.missingOperand helper.name operand) else .ok .null
  | none => .error (.missingOperand helper.name operand)

/-! ### Values -/

/-- The item of a collection at a position or under a name. -/
def Tree.item? : Tree → Tree → Option Tree
  | .sequence items, .number n => n.toNat?.bind fun i => items[i]?
  | .mapping entries, .string key => lookup? entries key
  | _, _ => none

/-- The size of a collection, or of a text in bytes. -/
def Tree.length : Tree → Nat
  | .sequence items => items.length
  | .mapping entries => entries.length
  | .string s => s.utf8ByteSize
  | _ => 0

/-- **The value that a value helper computes.** -/
def ValueHelper.run (helper : ValueHelper) (strict : Bool) (a : Arguments) :
    Except TemplateFault Tree := do
  match helper with
  | .lookup =>
    let collection ← a.require helper.name 0
    let key ← a.require helper.name 1
    match collection.item? key with
    | none | some .null => if strict then throw .missingValue else return .null
    | some value => return value
  | .negation =>
    let x ← a.operand strict helper 0 "x"
    return .boolean !(x.isTruthy false)
  | .length =>
    let x ← a.operand strict helper 0 "x"
    return match Number.ofInt? x.length with
      | some n => .number n
      | none => .null
  | .sameness wanted =>
    let x ← a.operand strict helper 0 "x"
    let y ← a.operand strict helper 1 "y"
    return .boolean (x.same y == wanted)
  | .order test =>
    let x ← a.operand strict helper 0 "x"
    let y ← a.operand strict helper 1 "y"
    return .boolean ((x.compare? y).any test.accepts)
  | .both =>
    let x ← a.operand strict helper 0 "x"
    let y ← a.operand strict helper 1 "y"
    return .boolean (x.isTruthy false && y.isTruthy false)
  | .either =>
    let x ← a.operand strict helper 0 "x"
    let y ← a.operand strict helper 1 "y"
    return .boolean (x.isTruthy false || y.isTruthy false)

/-- **The text that a naming helper writes.** -/
def NamingStyle.run (style : NamingStyle) (a : Arguments) : Except TemplateFault String :=
  match a.inOrder with
  | [] => .error (.missingArgument style.helperName 0)
  | some (.string name) :: _ => .ok (style.apply name)
  | _ :: _ => .error .notAText

/-- A condition: whether its argument is as wanted. The helper that wants it false names
the other one in its fault. -/
def conditionHolds (wanted : Bool) (a : Arguments) : Except TemplateFault Bool := do
  let value ← a.require "if" 0
  let includeZero := match a.named.find? fun entry => entry.1 == "includeZero" with
    | some (_, some (.boolean b)) => b
    | _ => false
  return value.isTruthy includeZero == wanted

end Blueprint
