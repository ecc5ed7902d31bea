import Blueprint.Number.Reading
import Blueprint.Tree.Feed
import Blueprint.Yaml.Token

/-!
# Scalars of a YAML document

How a scalar is scanned, and what it means. A scalar may continue on further lines: a
single line break is read as a blank, and the empty lines after the first break are kept
as breaks (`Fold`). Quoted scalars are strings. A plain scalar is null, a truth value or
a number when it is written like one (`plainFeed`), and a string otherwise; digits after
a leading zero make a string.
-/

namespace Blueprint

namespace Yaml

/-! ### Folding of lines -/

/-- Blanks between two words of a scalar: those of one line, or, once a line has ended,
the first line break and the further ones. -/
structure Fold where
  blanks : List Char
  firstBreak : Option (List Char)
  moreBreaks : List Char

/-- No blanks. -/
def Fold.none : Fold := ⟨[], Option.none, []⟩

/-- A blank added, which counts only before a line break. -/
def Fold.addBlank (f : Fold) (c : Char) : Fold :=
  if f.firstBreak.isSome then f else { f with blanks := f.blanks ++ [c] }

/-- A line break added. -/
def Fold.addBreak (f : Fold) (text : List Char) : Fold :=
  match f.firstBreak with
  | Option.none => ⟨[], some text, f.moreBreaks⟩
  | some _ => { f with moreBreaks := f.moreBreaks ++ text }

/-- **The text that blanks between two words stand for.** -/
def Fold.text (f : Fold) : List Char :=
  match f.firstBreak with
  | Option.none => f.blanks
  | some ['\n'] => if f.moreBreaks.isEmpty then [' '] else f.moreBreaks
  | some text => text ++ f.moreBreaks

/-- The blanks at a cursor, and the cursor after them. -/
def scanFold : Nat → Cursor → Fold → Fold × Cursor
  | 0, c, f => (f, c)
  | fuel + 1, c, f =>
    match c.rest with
    | [] => (f, c)
    | b :: _ =>
      if isBlankChar b then scanFold fuel c.skip (f.addBlank b)
      else if isBreak b then scanFold fuel c.skipBreak (f.addBreak c.breakText)
      else (f, c)

/-! ### Quoted scalars -/

/-- What an escape with a fixed meaning stands for. -/
def simpleEscape? (c : Char) : Option Char :=
  match c with
  | '0' => some '\x00'
  | 'a' => some '\x07'
  | 'b' => some '\x08'
  | 't' => some '\t'
  | '\t' => some '\t'
  | 'n' => some '\n'
  | 'v' => some '\x0b'
  | 'f' => some '\x0c'
  | 'r' => some '\r'
  | 'e' => some '\x1b'
  | ' ' => some ' '
  | '"' => some '"'
  | '/' => some '/'
  | '\\' => some '\\'
  | 'N' => some (Char.ofNat 0x85)
  | '_' => some (Char.ofNat 0xA0)
  | 'L' => some (Char.ofNat 0x2028)
  | 'P' => some (Char.ofNat 0x2029)
  | _ => none

/-- How many hexadecimal digits follow an escape. -/
def escapeLength? (c : Char) : Option Nat :=
  match c with
  | 'x' => some 2
  | 'u' => some 4
  | 'U' => some 8
  | _ => none

/-- An escape, from the character after the backslash, and its length. -/
def scanEscape? (cs : List Char) : Option (Char × Nat) := do
  let c ← cs.head?
  match simpleEscape? c with
  | some d => return (d, 1)
  | none => do
    let length ← escapeLength? c
    let digits := (cs.drop 1).take length
    if digits.length ≠ length then none
    else do
      let n ← readNatural? 16 digits
      if Nat.isValidChar n then return (Char.ofNat n, length + 1) else none

/-- **The rest of a quoted scalar**, after the text read so far. -/
def scanQuoted? (single : Bool) : Nat → Cursor → List Char → Option (String × Cursor)
  | 0, _, _ => none
  | fuel + 1, c, done =>
    if c.atDocumentMarker then none
    else
      match c.rest with
      | [] => none
      | '\'' :: '\'' :: _ =>
        if single then scanQuoted? single fuel (c.skipMany 2) (done ++ ['\''])
        else scanQuoted? single fuel c.skip (done ++ ['\''])
      | '\\' :: next =>
        if single then scanQuoted? single fuel c.skip (done ++ ['\\'])
        else if atBreak next then
          let (f, after) := scanFold fuel c.skip.skipBreak { Fold.none with firstBreak := some [] }
          scanQuoted? single fuel after (done ++ f.text)
        else do
          let (d, length) ← scanEscape? next
          scanQuoted? single fuel (c.skipMany (length + 1)) (done ++ [d])
      | d :: _ =>
        if d = (if single then '\'' else '"') then some (String.ofList done, c.skip)
        else if isBlankChar d || isBreak d then
          let (f, after) := scanFold fuel c Fold.none
          scanQuoted? single fuel after (done ++ f.text)
        else scanQuoted? single fuel c.skip (done ++ [d])

/-! ### Plain scalars -/

/-- A character that separates in flow collections. -/
def isFlowIndicator (c : Char) : Bool :=
  c == ',' || c == '[' || c == ']' || c == '\x7b' || c == '\x7d'

/-- A word of a plain scalar: up to a blank, a colon before a blank, or a separator of a
flow collection. It fails where a colon stands before a separator. -/
def scanWord? (flow : Bool) : Nat → Cursor → List Char → Option (List Char × Cursor)
  | 0, _, _ => none
  | fuel + 1, c, done =>
    match c.rest with
    | [] => some (done, c)
    | d :: next =>
      if isBlankChar d || isBreak d then some (done, c)
      else if flow && d == ':' && (match next with
          | n :: _ => isFlowIndicator n || n == '?'
          | [] => false) then none
      else if d == ':' && atBlank next then some (done, c)
      else if flow && isFlowIndicator d then some (done, c)
      else scanWord? flow fuel c.skip (done ++ [d])

/-- A tab stands where the indentation of a further line should be. -/
def tabInIndent (indent : Nat) : Nat → Cursor → Bool → Bool
  | 0, _, _ => false
  | fuel + 1, c, broken =>
    match c.rest with
    | [] => false
    | b :: _ =>
      if isBlankChar b then
        (broken && c.column < indent && b == '\t') || tabInIndent indent fuel c.skip broken
      else if isBreak b then tabInIndent indent fuel c.skipBreak true
      else false

/-- A scalar found, the cursor after the blanks that follow it, and whether a line break
was among them. -/
structure PlainScalar where
  text : List Char
  after : Cursor
  broken : Bool

/-- **A plain scalar**: words with blanks between them, as long as further lines are
indented by `indent` columns at least. -/
def scanPlain? (flow : Bool) (indent : Nat) : Nat → Cursor → List Char → Fold → Option PlainScalar
  | 0, _, _, _ => none
  | fuel + 1, c, done, fold =>
    let stop : PlainScalar := ⟨done, c, fold.firstBreak.isSome⟩
    if c.atDocumentMarker then some stop
    else if c.rest.head? = some '#' then some stop
    else do
      let (word, after) ← scanWord? flow (fuel + 1) c []
      if word.isEmpty then some stop
      else
        let done := done ++ fold.text ++ word
        if !(atSpace after.rest || atBreak after.rest) then some ⟨done, after, false⟩
        else if tabInIndent indent fuel after false then none
        else
          let (f, next) := scanFold fuel after Fold.none
          if !flow && next.column < indent then some ⟨done, next, f.firstBreak.isSome⟩
          else scanPlain? flow indent fuel next done f

/-! ### The meaning of plain scalars -/

/-- Digits after a leading zero, which make a string. -/
def isZeroPadded (cs : List Char) : Bool :=
  match (takeSign cs).2 with
  | '0' :: d :: rest => (d :: rest).all Char.isDigit
  | _ => false

/-- The digits of a based number after its mark: their base and themselves. -/
def basedDigits? : List Char → Option (Nat × List Char)
  | '0' :: 'x' :: digits => some (16, digits)
  | '0' :: 'o' :: digits => some (8, digits)
  | '0' :: 'b' :: digits => some (2, digits)
  | _ => none

/-- A natural number, in base ten or with the mark of another base. -/
def unsigned? (cs : List Char) : Option Nat :=
  match basedDigits? cs with
  | some (base, digits) => readNatural? base digits
  | none => if isZeroPadded cs then none else readNatural? 10 cs

/-- **An integer**, with an optional sign. -/
def integer? : List Char → Option Int
  | '-' :: cs => (unsigned? cs).map fun n => -(n : Int)
  | '+' :: cs => (unsigned? cs).map fun n => (n : Int)
  | cs => (unsigned? cs).map fun n => (n : Int)

/-- A decimal without two signs. -/
def decimal? : List Char → Option Decimal
  | '+' :: '+' :: _ => none
  | '+' :: '-' :: _ => none
  | '+' :: cs => readDecimal? cs
  | cs => readDecimal? cs

/-- A value that is not finite. -/
def notFinite? (s : String) : Option FeedDouble :=
  match s with
  | ".inf" | ".Inf" | ".INF" | "+.inf" | "+.Inf" | "+.INF" => some (.infinite false)
  | "-.inf" | "-.Inf" | "-.INF" => some (.infinite true)
  | ".nan" | ".NaN" | ".NAN" => some .notANumber
  | _ => none

/-- An integer as an offer: one beyond 128 bits is none. -/
def integerFeed? (n : Int) : Option Feed :=
  if h : Number.InRange n then some (.integer n h)
  else if 0 ≤ n ∧ n < 0x100000000000000000000000000000000 then some (.wideNatural n.toNat)
  else if -0x80000000000000000000000000000000 ≤ n ∧ n < 0 then some (.wideInteger n)
  else none

/-- **What a plain scalar stands for.** -/
def plainFeed (s : String) : Feed :=
  let cs := s.toList
  if s = "" ∨ s = "~" ∨ s = "null" ∨ s = "Null" ∨ s = "NULL" then .null
  else if s = "true" ∨ s = "True" ∨ s = "TRUE" then .boolean true
  else if s = "false" ∨ s = "False" ∨ s = "FALSE" then .boolean false
  else
    match (integer? cs).bind integerFeed? with
    | some feed => feed
    | none =>
      match notFinite? s with
      | some x => .double x
      | none =>
        match (if isZeroPadded cs then none else (decimal? cs).bind Decimal.toDouble?) with
        | some x => .double (.finite x)
        | none => .string s

/-- What a scalar stands for. -/
def scalarFeed (text : String) (plain : Bool) : Feed :=
  if plain then plainFeed text else .string text

end Yaml

end Blueprint
