import Blueprint.Json.Reader
import Blueprint.Template.Expression

/-!
# Reading the tags of a template

What stands between the braces of a tag. Names are made of letters, digits, underscores,
hyphens, dollar signs and all characters beyond ASCII. Tokens may have blanks and line
breaks between them, but a path is one token. A tilde just inside the braces asks for the
blanks outside to be removed.

Every scanner takes the characters left and gives what it found with those left after it.
The choices are made in a fixed order and never taken back.

| tag | meaning |
|---|---|
| a call or a path, in two or three braces or after `&` | its value |
| `#` and the head of a block | the start of a block |
| `else` or `^`, alone or before the head of a block | the other part of a block |
| `/` and a name | the end of a block |
| `>` and a name | an inclusion |
| `!` | a comment |
-/

namespace Blueprint

namespace Template

/-! ### Characters and names -/

/-- A blank between tokens. -/
def isTagSpace (c : Char) : Bool := c == ' ' || c == '\t' || c == '\n' || c == '\r'

def skipSpace (cs : List Char) : List Char := cs.dropWhile isTagSpace

/-- A character of a name. -/
def isNameChar (c : Char) : Bool :=
  c.isAlphanum || c == '_' || c == '-' || c == '$' || 0x80 ≤ c.toNat

/-- The text goes on with a character of a name. -/
def startsName : List Char → Bool
  | c :: _ => isNameChar c
  | [] => false

/-- A name. -/
def scanName? (cs : List Char) : Option (List Char × List Char) :=
  match cs.takeWhile isNameChar with
  | [] => none
  | name => some (name, cs.dropWhile isNameChar)

/-- The text after some characters that it starts with. -/
def expect? (start : List Char) (cs : List Char) : Option (List Char) :=
  if start.isPrefixOf cs then some (cs.drop start.length) else none

/-- The characters that were read between two places of a text. -/
def spanned (before after : List Char) : List Char := before.take (before.length - after.length)

/-! ### Paths -/

/-- The word for the current value, which names nothing in a path. -/
def thisWord : List Char := ['t', 'h', 'i', 's']

/-- What separates the keys of a path. -/
def isPathSeparator (c : Char) : Bool := c == '.' || c == '/'

/-- The text after a separator. -/
def skipSeparator? : List Char → Option (List Char)
  | c :: cs => if isPathSeparator c then some cs else none
  | [] => none

/-- The text after the current value and a separator, however often they stand there. -/
def skipCurrent : Nat → List Char → List Char
  | 0, cs => cs
  | fuel + 1, cs =>
    match (expect? thisWord cs).bind skipSeparator?, expect? ['.', '/'] cs with
    | some rest, _ => skipCurrent fuel rest
    | none, some rest => skipCurrent fuel rest
    | none, none => cs

/-- The steps up, each with its separator, and what follows them. -/
def skipUp : Nat → List Char → Nat × List Char
  | 0, cs => (0, cs)
  | fuel + 1, cs =>
    match (expect? ['.', '.'] cs).bind skipSeparator? with
    | some rest =>
      let (n, rest) := skipUp fuel rest
      (n + 1, rest)
    | none => (0, cs)

/-- A key of a path: a name, or anything between brackets. -/
def scanKey? (cs : List Char) : Option (List Char × List Char) :=
  match cs with
  | '[' :: cs =>
    match cs.dropWhile fun c => c != ']' with
    | _ :: rest => some (cs.takeWhile fun c => c != ']', rest)
    | [] => none
  | cs => scanName? cs

/-- The further keys of a path. -/
def scanKeys : Nat → List Char → List (List Char) × List Char
  | 0, cs => ([], cs)
  | fuel + 1, cs =>
    match (skipSeparator? cs).bind scanKey? with
    | some (key, rest) =>
      let (keys, rest) := scanKeys fuel rest
      (key :: keys, rest)
    | none => ([], cs)

/-- The path of its parts: whether it starts at the root or with the mark of a variable,
the steps up, and the keys, of which the current value is none. -/
def makePath (atRoot isVariable : Bool) (up : Nat) (keys : List (List Char)) : DataPath :=
  let keys := (keys.filter fun key => key != thisWord).map String.ofList
  if atRoot then .root keys
  else if isVariable then
    match keys with
    | name :: _ => .loopVariable up name
    | [] => .relative 0 []
  else .relative up keys

/-- **A path**, with the text it is written as. -/
def scanPath? (cs : List Char) : Option ((String × DataPath) × List Char) := do
  let fuel := cs.length
  let start := skipCurrent fuel cs
  let (atRoot, start) := match (expect? ['@', 'r', 'o', 'o', 't'] start).bind skipSeparator? with
    | some rest => (true, rest)
    | none => (false, start)
  let (isVariable, start) := match expect? ['@'] start with
    | some rest => (true, rest)
    | none => (false, start)
  let (up, start) := skipUp fuel start
  let (key, rest) ← scanKey? start
  let (keys, rest) := scanKeys fuel rest
  return ((String.ofList (spanned cs rest), makePath atRoot isVariable up (key :: keys)), rest)

/-! ### Literals -/

/-- The rest of a string after its quote, up to the same quote. Only escapes of JSON, and
that of the quote, may stand in it. -/
def skipString? (quote : Char) : List Char → Option (List Char)
  | [] => none
  | '\\' :: 'u' :: a :: b :: c :: d :: rest =>
    if (Json.readHex? [a, b, c, d]).isSome then skipString? quote rest else none
  | '\\' :: e :: rest =>
    if e = quote ∨ (e ≠ '"' ∧ (Json.shortEscape? e).isSome) then skipString? quote rest else none
  | c :: rest =>
    if c = quote then some rest else if c = '\\' then none else skipString? quote rest

/-- The digits that follow. -/
def skipDigits (cs : List Char) : List Char := cs.dropWhile Char.isDigit

/-- The exponent of a number, if there is one. -/
def skipExponent (cs : List Char) : List Char :=
  match cs with
  | 'E' :: rest =>
    let digits := (expect? ['-'] rest).getD rest
    if (digits.head?.map Char.isDigit) = some true then skipDigits digits else cs
  | cs => cs

/-- The text after a number. -/
def skipNumber? (cs : List Char) : Option (List Char) :=
  let cs := (expect? ['-'] cs).getD cs
  if (cs.head?.map Char.isDigit) = some true then
    let cs := skipDigits cs
    let cs := skipExponent (skipDigits ((expect? ['.'] cs).getD cs))
    if startsName cs then none else some cs
  else none

/-- The text after a word that is not the start of a longer name. -/
def skipWord? (word cs : List Char) : Option (List Char) := do
  let rest ← expect? word cs
  if startsName rest then none else some rest

mutual

/-- **The text after a literal**: a string in either kind of quotes, a list, a mapping, a
number, or one of three words. -/
def skipLiteral? : Nat → List Char → Option (List Char)
  | 0, _ => none
  | fuel + 1, cs =>
    match cs with
    | '"' :: rest => skipString? '"' rest
    | '\'' :: rest => skipString? '\'' rest
    | '[' :: rest =>
      match skipLiteral? fuel (skipSpace rest) with
      | some rest => skipItems? fuel (skipSpace rest)
      | none => skipItems? fuel (skipSpace rest)
    | '\x7b' :: rest =>
      match skipEntry? fuel (skipSpace rest) with
      | some rest => skipEntries? fuel (skipSpace rest)
      | none => skipEntries? fuel (skipSpace rest)
    | cs =>
      (skipNumber? cs) <|> (skipWord? ['n', 'u', 'l', 'l'] cs) <|>
        (skipWord? ['t', 'r', 'u', 'e'] cs) <|> (skipWord? ['f', 'a', 'l', 's', 'e'] cs)

/-- The text after the further items of a list and its bracket. -/
def skipItems? : Nat → List Char → Option (List Char)
  | 0, _ => none
  | fuel + 1, cs =>
    match cs with
    | ']' :: rest => some rest
    | ',' :: rest => do
      let rest ← skipLiteral? fuel (skipSpace rest)
      skipItems? fuel (skipSpace rest)
    | _ => none

/-- The text after an entry of a mapping. -/
def skipEntry? : Nat → List Char → Option (List Char)
  | 0, _ => none
  | fuel + 1, cs =>
    match cs with
    | '"' :: rest | '\'' :: rest => do
      let rest ← skipString? (cs.headD '"') rest
      match skipSpace rest with
      | ':' :: rest => skipLiteral? fuel (skipSpace rest)
      | _ => none
    | _ => none

/-- The text after the further entries of a mapping and its brace. -/
def skipEntries? : Nat → List Char → Option (List Char)
  | 0, _ => none
  | fuel + 1, cs =>
    match cs with
    | '\x7d' :: rest => some rest
    | ',' :: rest => do
      let rest ← skipEntry? fuel (skipSpace rest)
      skipEntries? fuel (skipSpace rest)
    | _ => none

end

/-- The inside of a string in single quotes, as it stands in double quotes. -/
def requote : List Char → List Char
  | [] => []
  | '\\' :: '\'' :: rest => '\'' :: requote rest
  | '"' :: rest => '\\' :: '"' :: requote rest
  | c :: rest => c :: requote rest

/-- A literal in the words of JSON. -/
def literalText (written : List Char) : List Char :=
  match written with
  | '\'' :: rest => '"' :: (requote rest.dropLast ++ ['"'])
  | written => written

/-! ### Expressions -/

/-- A word that starts no argument. -/
def isKeyword (word cs : List Char) : Bool :=
  match expect? word cs with
  | some rest => !startsName (skipSpace rest)
  | none => false

/-- What a failed reading says: the text may still be something else, or it can be
nothing at all. -/
inductive Misfit where
  | mismatch
  | invalid
deriving DecidableEq

/-- A result that has to be there. -/
def orMismatch {α : Type} (value : Option α) : Except Misfit α :=
  match value with
  | some v => .ok v
  | none => .error .mismatch

/-- A literal. One that is no JSON makes the template invalid. -/
def scanLiteral (cs : List Char) : Except Misfit (Tree × List Char) := do
  let rest ← orMismatch (skipLiteral? (cs.length + 1) cs)
  match Json.read? (String.ofList (literalText (spanned cs rest))) with
  | some value => .ok (value, rest)
  | none => .error .invalid

/-- An argument of a call: one in order, or one with a name. -/
inductive Argument where
  | inOrder (value : Expression)
  | named (name : String) (value : Expression)

/-- The arguments in order. -/
def inOrder : List Argument → List Expression
  | [] => []
  | .inOrder value :: rest => value :: inOrder rest
  | .named _ _ :: rest => inOrder rest

/-- The named arguments. -/
def namedOnes : List Argument → List (String × Expression)
  | [] => []
  | .inOrder _ :: rest => namedOnes rest
  | .named name value :: rest => (name, value) :: namedOnes rest

/-- The call of a name with arguments. -/
def callOf (name : List Char) (arguments : List Argument) : Call :=
  .mk (.name (String.ofList name)) (inOrder arguments) (namedOnes arguments)

/-- One reading, or another one where the first finds something else. -/
def orElse {α : Type} (first : Except Misfit α) (second : Unit → Except Misfit α) :
    Except Misfit α :=
  match first with
  | .error .mismatch => second ()
  | result => result

mutual

/-- **An argument without a name**: a literal, a path, or a call between parentheses. -/
def scanExpression : Nat → List Char → Except Misfit (Expression × List Char)
  | 0, _ => .error .mismatch
  | fuel + 1, cs =>
    if isKeyword ['a', 's'] cs || isKeyword ['e', 'l', 's', 'e'] cs then .error .mismatch
    else
      match scanLiteral cs with
      | .ok (value, rest) => .ok (.literal value, rest)
      | .error .invalid => .error .invalid
      | .error .mismatch =>
        match scanPath? cs with
        | some ((text, path), rest) => .ok (.path text path, rest)
        | none =>
          match scanCall fuel cs with
          | .ok (call, rest) => .ok (.call call, rest)
          | .error e => .error e

/-- A call between parentheses, with arguments or of a path alone. -/
def scanCall : Nat → List Char → Except Misfit (Call × List Char)
  | 0, _ => .error .mismatch
  | fuel + 1, cs =>
    match cs with
    | '(' :: rest =>
      let start := skipSpace rest
      let inner := orElse (scanApplication fuel start) fun _ =>
        match scanPath? start with
        | some ((text, path), rest) => .ok (.mk (.path text path) [] [], rest)
        | none => .error .mismatch
      match inner with
      | .error e => .error e
      | .ok (call, rest) =>
        match skipSpace rest with
        | ')' :: rest => .ok (call, rest)
        | _ => .error .mismatch
    | _ => .error .mismatch

/-- A name with at least one argument. -/
def scanApplication : Nat → List Char → Except Misfit (Call × List Char)
  | 0, _ => .error .mismatch
  | fuel + 1, cs =>
    match scanName? cs with
    | none => .error .mismatch
    | some (name, rest) =>
      match scanArguments fuel rest with
      | .error e => .error e
      | .ok ([], _) => .error .mismatch
      | .ok (arguments, rest) => .ok (callOf name arguments, rest)

/-- One argument, with its name or without. -/
def scanArgument : Nat → List Char → Except Misfit (Argument × List Char)
  | 0, _ => .error .mismatch
  | fuel + 1, cs =>
    let named : Except Misfit (Argument × List Char) :=
      match scanName? cs with
      | none => .error .mismatch
      | some (name, rest) =>
        match skipSpace rest with
        | '=' :: rest =>
          match scanExpression fuel (skipSpace rest) with
          | .ok (value, rest) => .ok (.named (String.ofList name) value, rest)
          | .error e => .error e
        | _ => .error .mismatch
    orElse named fun _ =>
      match scanExpression fuel cs with
      | .ok (value, rest) => .ok (.inOrder value, rest)
      | .error e => .error e

/-- As many arguments as there are. -/
def scanArguments : Nat → List Char → Except Misfit (List Argument × List Char)
  | 0, _ => .error .mismatch
  | fuel + 1, cs =>
    match scanArgument fuel (skipSpace cs) with
    | .error .invalid => .error .invalid
    | .error .mismatch => .ok ([], cs)
    | .ok (argument, rest) =>
      match scanArguments fuel rest with
      | .error e => .error e
      | .ok (arguments, rest) => .ok (argument :: arguments, rest)

end

/-- The fuel that is enough for any expression of a text. -/
def fuelFor (cs : List Char) : Nat := 4 * cs.length + 4

/-- A call between parentheses or a path: what a tag without arguments holds. -/
def scanBare (cs : List Char) : Except Misfit (Call × List Char) :=
  let call : Except Misfit (Call × List Char) :=
    (scanCall (fuelFor cs) cs).map fun (call, rest) => (.mk (.call call) [] [], rest)
  orElse call fun _ =>
    match scanPath? cs with
    | some ((text, path), rest) => .ok (.mk (.path text path) [] [], rest)
    | none => .error .mismatch

/-- What a tag that prints a value holds. -/
def scanOutput (cs : List Char) : Except Misfit (Call × List Char) :=
  orElse (scanApplication (fuelFor cs) cs) fun _ => scanBare cs

/-- The names that a block gives to its values. -/
def scanBindings? (cs : List Char) : Option (List String × List Char) := do
  let rest ← expect? ['|'] (skipSpace (← expect? ['a', 's'] cs))
  let (first, rest) ← scanName? (skipSpace rest)
  match scanName? (skipSpace rest) with
  | some (second, rest) =>
    let rest ← expect? ['|'] (skipSpace rest)
    return ([String.ofList first, String.ofList second], rest)
  | none =>
    let rest ← expect? ['|'] (skipSpace rest)
    return ([String.ofList first], rest)

/-- **The head of a block.** -/
def scanBlockHead (cs : List Char) : Except Misfit (BlockHead × List Char) := do
  let (name, rest) ← orMismatch (scanName? cs)
  let (arguments, rest) ← scanArguments (fuelFor rest) rest
  let (bindings, rest) := (scanBindings? (skipSpace rest)).getD ([], rest)
  return (⟨String.ofList name, inOrder arguments, namedOnes arguments, bindings⟩, rest)

/-! ### Tags -/

/-- What a tag says. -/
inductive TagKind where
  | output (call : Call)
  | opening (head : BlockHead)
  | otherwise
  | otherwiseIf (head : BlockHead)
  | closing (name : String)
  | inclusion
  | comment

/-- **A tag**, and whether blanks before and after it are to be removed. -/
structure Tag where
  kind : TagKind
  trimsBefore : Bool
  trimsAfter : Bool

/-- The text after a tilde, if there is one. -/
def skipTilde (cs : List Char) : Bool × List Char :=
  match cs with
  | '~' :: rest => (true, rest)
  | cs => (false, cs)

/-- The end of a tag: perhaps a tilde, and braces. -/
def scanEnd (braces : List Char) (cs : List Char) : Except Misfit (Bool × List Char) := do
  let (tilde, rest) := skipTilde (skipSpace cs)
  let rest ← orMismatch (expect? braces (skipSpace rest))
  return (tilde, rest)

/-- Two closing braces. -/
def closingBraces : List Char := ['\x7d', '\x7d']

/-- A tag whose content has been read. -/
def finishTag (trimsBefore : Bool) (kind : TagKind) (cs : List Char) :
    Except Misfit (Tag × List Char) := do
  let (trimsAfter, rest) ← scanEnd closingBraces cs
  return (⟨kind, trimsBefore, trimsAfter⟩, rest)

/-- A value in three braces. -/
def scanTriple (cs : List Char) : Except Misfit (Tag × List Char) := do
  let (trimsBefore, rest) := skipTilde (skipSpace cs)
  let (call, rest) ← scanOutput (skipSpace rest)
  let (trimsAfter, rest) ← scanEnd ('\x7d' :: closingBraces) rest
  return (⟨.output call, trimsBefore, trimsAfter⟩, rest)

/-- A value in three braces with a tilde between the second and the third. -/
def scanInnerTriple (trimsBefore : Bool) (cs : List Char) : Except Misfit (Tag × List Char) := do
  let (call, rest) ← scanOutput (skipSpace cs)
  let rest ← orMismatch (expect? ['\x7d'] (skipSpace rest))
  finishTag trimsBefore (.output call) rest

/-- The other part of a block, after its word. -/
def scanOtherwise (trimsBefore : Bool) (cs : List Char) : Except Misfit (Tag × List Char) :=
  orElse (finishTag trimsBefore .otherwise cs) fun _ => do
    let (head, rest) ← scanBlockHead (skipSpace cs)
    finishTag trimsBefore (.otherwiseIf head) rest

/-- A name or a path or something between quotes, as an inclusion has. -/
def scanInclusionName (cs : List Char) : Except Misfit (List Char) :=
  match cs.takeWhile fun c => isNameChar c || isPathSeparator c with
  | [] => (scanBare cs).map (·.2)
  | name => .ok (cs.drop name.length)

/-- The content of a tag in two braces. -/
def scanContent (trimsBefore : Bool) (cs : List Char) : Except Misfit (Tag × List Char) :=
  match cs with
  | '#' :: rest => do
    let (head, rest) ← scanBlockHead (skipSpace rest)
    finishTag trimsBefore (.opening head) rest
  | '/' :: rest => do
    let (name, rest) ← orMismatch (scanName? (skipSpace rest))
    finishTag trimsBefore (.closing (String.ofList name)) rest
  | '>' :: rest => do
    let rest ← scanInclusionName (skipSpace rest)
    let (_, rest) ← scanArguments (fuelFor rest) rest
    finishTag trimsBefore .inclusion rest
  | '&' :: rest => do
    let (call, rest) ← scanBare (skipSpace rest)
    finishTag trimsBefore (.output call) rest
  | '\x7b' :: rest => scanInnerTriple trimsBefore rest
  | '^' :: rest => scanOtherwise trimsBefore rest
  | 'e' :: 'l' :: 's' :: 'e' :: rest =>
    orElse (scanOtherwise trimsBefore rest) fun _ => do
      let (call, rest) ← scanOutput cs
      finishTag trimsBefore (.output call) rest
  | cs => do
    let (call, rest) ← scanOutput cs
    finishTag trimsBefore (.output call) rest

/-- The text after the first place where some characters stand. -/
def skipPast? (mark : List Char) : List Char → Option (List Char)
  | [] => if mark.isEmpty then some [] else none
  | c :: cs =>
    if mark.isPrefixOf (c :: cs) then some ((c :: cs).drop mark.length) else skipPast? mark cs

/-- The text after a comment, from behind its mark. A comment that starts with two hyphens
ends with two hyphens, if there are any. -/
def skipComment? (cs : List Char) : Option (List Char) :=
  let long := (expect? ['-', '-'] (skipSpace cs)).bind (skipPast? ('-' :: '-' :: closingBraces))
  match long with
  | some rest => some rest
  | none => skipPast? closingBraces cs

/-- **A tag**, from behind its first two braces. -/
def scanTag (cs : List Char) : Except Misfit (Tag × List Char) :=
  match cs with
  | '!' :: rest =>
    (orMismatch (skipComment? rest)).map fun rest => (⟨.comment, false, false⟩, rest)
  | '\x7b' :: rest =>
    orElse (scanTriple rest) fun _ => scanInnerTriple false rest
  | cs =>
    let (trimsBefore, rest) := skipTilde (skipSpace cs)
    scanContent trimsBefore (skipSpace rest)

end Template

end Blueprint
