import Blueprint.Json.Node

/-!
# Reading JSON

The grammar of RFC 8259, and nothing beside it: no byte order mark, no comment, no
trailing comma, no leading zero, no raw control character in a string. A scanner takes
the list of characters left and gives its result with those left after it; the three
that call one another, for a value, the items of an array and the members of an
object, count down a fuel that `Json.readNode?` computes from the length of the text.

| scanner | what it takes |
|---|---|
| `skipSpace` | blanks between tokens |
| `scanLiteral?` | a number |
| `scanPieces?`, `resolve?` | the inside of a string, and its text |
| `scanValue?` | any value |
-/

namespace Blueprint

namespace Json

/-! ### Blanks and numbers -/

def isSpace (c : Char) : Bool := c == ' ' || c == '\n' || c == '\t' || c == '\r'

/-- The text after the blanks at its start. -/
def skipSpace (cs : List Char) : List Char := cs.dropWhile isSpace

/-- At least one digit. -/
def scanDigits? (cs : List Char) : Option (List Char × List Char) :=
  match cs.takeWhile Char.isDigit with
  | [] => none
  | digits => some (digits, cs.dropWhile Char.isDigit)

/-- The integer part of a number: a zero alone, or digits that start with another. -/
def scanWhole? (cs : List Char) : Option (List Char × List Char) := do
  let (digits, rest) ← scanDigits? cs
  if digits.head? = some '0' ∧ digits.length ≠ 1 then none else some (digits, rest)

/-- The fraction of a number, if a point says that there is one. -/
def scanFraction? : List Char → Option (Option (List Char) × List Char)
  | '.' :: cs => do
    let (digits, rest) ← scanDigits? cs
    return (some digits, rest)
  | cs => some (none, cs)

/-- The sign of an exponent. -/
def scanSign : List Char → Bool × List Char
  | '+' :: cs => (false, cs)
  | '-' :: cs => (true, cs)
  | cs => (false, cs)

/-- The exponent of a number, if a mark says that there is one. -/
def scanExponent? : List Char → Option (Option Exponent × List Char)
  | 'e' :: cs | 'E' :: cs => do
    let (negative, cs) := scanSign cs
    let (digits, rest) ← scanDigits? cs
    return (some ⟨negative, digits⟩, rest)
  | cs => some (none, cs)

/-- **A number literal.** -/
def scanLiteral? (cs : List Char) : Option (Literal × List Char) := do
  let (negative, cs) := match cs with
    | '-' :: cs => (true, cs)
    | cs => (false, cs)
  let (whole, cs) ← scanWhole? cs
  let (fraction, cs) ← scanFraction? cs
  let (exponent, cs) ← scanExponent? cs
  return (⟨negative, whole, fraction, exponent⟩, cs)

/-! ### Strings -/

/-- A part of a string: a character, or a code unit that an escape names. -/
inductive Piece where
  | char (c : Char)
  | unit (value : Nat)

/-- The value of a hexadecimal digit. -/
def hexValue? (c : Char) : Option Nat :=
  if c.isDigit then some (c.toNat - '0'.toNat)
  else if 'a' ≤ c ∧ c ≤ 'f' then some (c.toNat - 'a'.toNat + 10)
  else if 'A' ≤ c ∧ c ≤ 'F' then some (c.toNat - 'A'.toNat + 10)
  else none

/-- The value of hexadecimal digits. -/
def readHex? (digits : List Char) : Option Nat :=
  digits.foldlM (fun n c => do return 16 * n + (← hexValue? c)) 0

/-- The character that a short escape names. -/
def shortEscape? : Char → Option Char
  | '"' => some '"'
  | '\\' => some '\\'
  | '/' => some '/'
  | 'b' => some '\x08'
  | 'f' => some '\x0c'
  | 'n' => some '\n'
  | 'r' => some '\r'
  | 't' => some '\t'
  | _ => none

/-- **The inside of a string**, up to the quote that ends it. -/
def scanPieces? : List Char → Option (List Piece × List Char)
  | [] => none
  | '"' :: rest => some ([], rest)
  | '\\' :: 'u' :: a :: b :: c :: d :: rest => do
    let unit ← readHex? [a, b, c, d]
    let (pieces, rest) ← scanPieces? rest
    return (.unit unit :: pieces, rest)
  | '\\' :: e :: rest => do
    let c ← shortEscape? e
    let (pieces, rest) ← scanPieces? rest
    return (.char c :: pieces, rest)
  | c :: rest =>
    if c.toNat < 0x20 ∨ c = '\\' then none
    else do
      let (pieces, rest) ← scanPieces? rest
      return (.char c :: pieces, rest)

/-- The first half of a surrogate pair. -/
def isHighSurrogate (n : Nat) : Bool := 0xD800 ≤ n && n < 0xDC00

/-- The second half of a surrogate pair. -/
def isLowSurrogate (n : Nat) : Bool := 0xDC00 ≤ n && n < 0xE000

/-- **The characters of the pieces of a string**: two code units that form a surrogate
pair are one character, and a half alone is none. -/
def resolve? : List Piece → Option (List Char)
  | [] => some []
  | .char c :: rest => (resolve? rest).map (c :: ·)
  | .unit high :: .unit low :: rest =>
    if isHighSurrogate high then
      if isLowSurrogate low then
        (resolve? rest).map
          (Char.ofNat (0x10000 + (high - 0xD800) * 0x400 + (low - 0xDC00)) :: ·)
      else none
    else if isLowSurrogate high then none
    else (resolve? (.unit low :: rest)).map (Char.ofNat high :: ·)
  | .unit n :: rest =>
    if isHighSurrogate n || isLowSurrogate n then none
    else (resolve? rest).map (Char.ofNat n :: ·)

/-- The text of a string from its inside, and what follows the string. -/
def scanString? (cs : List Char) : Option (Option String × List Char) := do
  let (pieces, rest) ← scanPieces? cs
  return ((resolve? pieces).map String.ofList, rest)

/-! ### Values -/

mutual

/-- **A value**, after blanks. -/
def scanValue? : Nat → List Char → Option (Node × List Char)
  | 0, _ => none
  | fuel + 1, cs =>
    match skipSpace cs with
    | 'n' :: 'u' :: 'l' :: 'l' :: rest => some (.null, rest)
    | 't' :: 'r' :: 'u' :: 'e' :: rest => some (.boolean true, rest)
    | 'f' :: 'a' :: 'l' :: 's' :: 'e' :: rest => some (.boolean false, rest)
    | '"' :: rest => do
      let (text, rest) ← scanString? rest
      return (.string text, rest)
    | '[' :: rest =>
      match skipSpace rest with
      | ']' :: rest => some (.array [], rest)
      | rest => do
        let (items, rest) ← scanItems? fuel rest
        return (.array items, rest)
    | '\x7b' :: rest =>
      match skipSpace rest with
      | '\x7d' :: rest => some (.object [], rest)
      | rest => do
        let (members, rest) ← scanMembers? fuel rest
        return (.object members, rest)
    | rest => do
      let (literal, rest) ← scanLiteral? rest
      return (.number literal, rest)

/-- The items of an array, at least one, up to the bracket that ends it. -/
def scanItems? : Nat → List Char → Option (List Node × List Char)
  | 0, _ => none
  | fuel + 1, cs => do
    let (item, rest) ← scanValue? fuel cs
    match skipSpace rest with
    | ',' :: rest => do
      let (items, rest) ← scanItems? fuel rest
      return (item :: items, rest)
    | ']' :: rest => return ([item], rest)
    | _ => none

/-- The members of an object, at least one, up to the brace that ends it. -/
def scanMembers? : Nat → List Char → Option (List (Option String × Node) × List Char)
  | 0, _ => none
  | fuel + 1, cs =>
    match skipSpace cs with
    | '"' :: rest => do
      let (name, rest) ← scanString? rest
      match skipSpace rest with
      | ':' :: rest => do
        let (value, rest) ← scanValue? fuel rest
        match skipSpace rest with
        | ',' :: rest => do
          let (members, rest) ← scanMembers? fuel rest
          return ((name, value) :: members, rest)
        | '\x7d' :: rest => return ([(name, value)], rest)
        | _ => none
      | _ => none
    | _ => none

end

/-- **A JSON text as a node**: one value with nothing but blanks around it. -/
def readNode? (text : String) : Option Node := do
  let cs := text.toList
  let (node, rest) ← scanValue? (2 * cs.length + 2) cs
  if (skipSpace rest).isEmpty then some node else none

/-- **A JSON text as a tree.** -/
def read? (text : String) : Option Tree := do
  (← readNode? text).toTree? Node.maxDepth

end Json

end Blueprint
