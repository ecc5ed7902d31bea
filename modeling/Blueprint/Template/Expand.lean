import Blueprint.Template.Helper
import Blueprint.Template.Layout

/-!
# Expanding a template

A template is read as a whole (`Template.read?`) and then expanded element by element, in
the scope of the data it is expanded with. Strict expansion refuses to print a value that
is not there, and to enter a block whose value is not there without another part.

Expansion is recursion on the elements. A loop expands the same body in one scope for each
item, so its length is that of the data and nothing else.
-/

namespace Blueprint

namespace Template

/-- How templates are expanded. -/
structure Mode where
  strict : Bool
  naming : CaseNaming

/-- The mode that the options of a render run ask for. -/
def Mode.ofOptions (options : RenderOptions) : Mode := ⟨options.strict, options.caseNaming⟩

/-! ### Expressions -/

/-- A block helper that is called without a block. Of those, only a context can still miss
its value. -/
def callBare (helper : BlockHelper) (m : Mode) (a : Arguments) :
    Except TemplateFault String := do
  match helper with
  | .each => let _ ← a.require "each" 0
  | .condition wanted => let _ ← conditionHolds wanted a
  | .within =>
    let value ← a.require "with" 0
    if m.strict && !value.isTruthy false then throw .missingValue
  | .raw | .log => pure ()
  return ""

/-- The value of a helper that is called without a block. -/
def callValue (m : Mode) (helper : Helper) (a : Arguments) : Except TemplateFault Tree :=
  match helper with
  | .block helper => (callBare helper m a).map .string
  | .value helper => helper.run m.strict a
  | .naming style => (style.run a).map .string

mutual

/-- **The value of an expression**, if it is there. -/
def evaluate (m : Mode) (s : Scope) : Expression → Except TemplateFault (Option Tree)
  | .literal value => .ok (some value)
  | .path _ path => s.resolve path
  | .call call => (evaluateCall m s call).map some

/-- The values of expressions, from the first to the last. -/
def evaluateAll (m : Mode) (s : Scope) : List Expression → Except TemplateFault (List (Option Tree))
  | [] => .ok []
  | e :: es => do
    let value ← evaluate m s e
    return value :: (← evaluateAll m s es)

/-- The values of named expressions. -/
def evaluateNamed (m : Mode) (s : Scope) :
    List (String × Expression) → Except TemplateFault (List (String × Option Tree))
  | [] => .ok []
  | (name, e) :: es => do
    let value ← evaluate m s e
    return (name, value) :: (← evaluateNamed m s es)

/-- The value of a call, which has to be one of a helper. -/
def evaluateCall (m : Mode) (s : Scope) : Call → Except TemplateFault Tree
  | .mk head arguments named => do
    let name ← headName m s head
    let inOrder ← evaluateAll m s arguments
    let named ← evaluateNamed m s named
    match Helper.ofName? m.naming name with
    | some helper => callValue m helper ⟨inOrder, named⟩
    | none => throw .unknownHelper

/-- **The name that a call is made by.** The name of a path is its text. -/
def headName (m : Mode) (s : Scope) : Head → Except TemplateFault String
  | .name text => .ok text
  | .path text _ => .ok text
  | .call call => (evaluateCall m s call).map Tree.printed

end

/-- The value of what stands in the place of a helper's name. -/
def headValue (m : Mode) (s : Scope) : Head → Except TemplateFault (Option Tree)
  | .name _ => .ok none
  | .path _ path => s.resolve path
  | .call call => (evaluateCall m s call).map some

/-- **The text of a tag that prints a value.** A name alone is a call when a helper has it,
and a value otherwise. -/
def printCall (m : Mode) (s : Scope) (call : Call) : Except TemplateFault String := do
  if call.isBare && (Helper.ofName? m.naming (← headName m s call.head)).isNone then
    match ← headValue m s call.head with
    | some value => return value.printed
    | none => if m.strict then throw .missingValue else return ""
  else return (← evaluateCall m s call).printed

/-! ### Blocks -/

/-- A number in the data of a loop. -/
def positionTree (n : Nat) : Tree := .number <|
  if h : Number.InRange n then .integer n h else .double (.zero false)

/-- What a block calls its value, and the key of the value. -/
def bindItem (names : List String) (value key : Tree) : Entries :=
  match names with
  | [name] => [(name, value)]
  | [name, keyName] => [(name, value), (keyName, key)]
  | _ => []

/-- The frame of one round of a loop over a sequence. -/
def itemFrame (names : List String) (count position : Nat) (value : Tree) : Frame where
  value := value
  locals := [("first", .boolean (position == 0)), ("last", .boolean (position + 1 == count)),
    ("index", positionTree position)]
  bindings := bindItem names value (positionTree position)

/-- The frame of one round of a loop over a mapping. -/
def entryFrame (names : List String) (count position : Nat) (entry : String × Tree) : Frame :=
  let frame := itemFrame names count position entry.2
  { frame with
    locals := ("key", .string entry.1) :: frame.locals
    bindings := bindItem names entry.2 (.string entry.1) }

/-- The frame of a context, which only one name can be given to. -/
def contextFrame (names : List String) (value : Tree) : Frame where
  value := value
  locals := []
  bindings := match names with
    | [name] => [(name, value)]
    | _ => []

/-- **The frames of a loop over a value**, one for each round, or none if it is no loop. A
collection without items is no loop for a block that has another part. -/
def loopFrames? (names : List String) (hasElse : Bool) (value : Tree) : Option (List Frame) :=
  match value with
  | .sequence items =>
    if items.isEmpty && hasElse then none
    else some (items.mapIdx fun i item => itemFrame names items.length i item)
  | .mapping entries =>
    if entries.isEmpty && hasElse then none
    else some (entries.mapIdx fun i entry => entryFrame names entries.length i entry)
  | _ => none

/-- **What a block does**: it expands its body in one or more scopes, or its other part, or
prints a text of its own. -/
inductive BlockPlan where
  | body (scopes : List Scope)
  | otherwise
  | text (value : String)

/-- The plan of a block whose value is not there. -/
def absentPlan (m : Mode) (hasElse : Bool) : Except TemplateFault BlockPlan :=
  if hasElse then .ok .otherwise
  else if m.strict then .error .missingValue
  else .ok (.text "")

/-- The plan of a block of a block helper. -/
def planHelper (helper : BlockHelper) (m : Mode) (s : Scope) (names : List String)
    (hasElse : Bool) (a : Arguments) : Except TemplateFault BlockPlan := do
  match helper with
  | .each =>
    match loopFrames? names hasElse (← a.require "each" 0) with
    | some frames => return .body (frames.map s.enter)
    | none => absentPlan m hasElse
  | .within =>
    let value ← a.require "with" 0
    if value.isTruthy false then return .body [s.enter (contextFrame names value)]
    else absentPlan m hasElse
  | .condition wanted =>
    if ← conditionHolds wanted a then return .body [s] else return .otherwise
  | .raw => return .body [s]
  | .log => return .text ""

/-- **The plan of a block**, from its head. -/
def planBlock (m : Mode) (s : Scope) (head : BlockHead) (hasElse : Bool) :
    Except TemplateFault BlockPlan := do
  let inOrder ← evaluateAll m s head.arguments
  let named ← evaluateNamed m s head.named
  match Helper.ofName? m.naming head.name with
  | some (.block helper) => planHelper helper m s head.bindings hasElse ⟨inOrder, named⟩
  | some helper => return .text (← callValue m helper ⟨inOrder, named⟩).printed
  | none => throw .unknownHelper

/-- The texts of an expansion in several scopes, one after the other. -/
def expandEach (expand : Scope → Except TemplateFault String) :
    List Scope → Except TemplateFault String
  | [] => .ok ""
  | s :: scopes => do
    let text ← expand s
    return text ++ (← expandEach expand scopes)

mutual

/-- The expansion of one element. -/
def expandElement (m : Mode) : TemplateElement → Scope → Except TemplateFault String
  | .text value, _ => .ok value
  | .output call, s => printCall m s call
  | .inclusion, _ => .error .unknownInclusion
  | .block head body hasElse otherwise, s => do
    match ← planBlock m s head hasElse with
    | .body scopes => expandEach (expandElements m body) scopes
    | .otherwise => expandElements m otherwise s
    | .text value => return value

/-- **The expansion of elements**, up to the first fault. -/
def expandElements (m : Mode) : List TemplateElement → Scope → Except TemplateFault String
  | [], _ => .ok ""
  | e :: es, s => do
    let text ← expandElement m e s
    return text ++ (← expandElements m es s)

end

/-- **The text of a template with some data.** A template that is no template at all fails
before anything is expanded. -/
def expand (m : Mode) (source : String) (data : Tree) : Except TemplateFault String :=
  match read? source with
  | some elements => expandElements m elements (.ofData data)
  | none => .error .malformed

/-- The text of a template under the options of a render run. -/
def expandWith (options : RenderOptions) : String → Tree → Except TemplateFault String :=
  expand (.ofOptions options)

end Template

end Blueprint
