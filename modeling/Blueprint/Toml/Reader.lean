import Blueprint.Number.Reading
import Blueprint.Toml.Table

/-!
# Reading TOML

A document is a sequence of lines, each with a key and its value, the header of a table,
or nothing, and a comment behind either. Keys are bare or quoted and may be dotted;
values are truth values, integers of 64 bits, floating-point numbers, strings, lists and
inline tables. Dates are not read.

A scanner takes the characters left and gives its result with those left after it. Values
may nest, so the scanners of values count down a fuel computed from the length of the
text.
-/

namespace Blueprint

namespace Toml

/-! ### Blanks, line ends and comments -/

def isBlankChar (c : Char) : Bool := c == ' ' || c == '\t'

/-- The text after the blanks at its start. -/
def skipBlanks (cs : List Char) : List Char := cs.dropWhile isBlankChar

/-- A character that may not stand in a comment or a string. -/
def isControl (c : Char) : Bool := (c.toNat < 0x20 && c != '\t') || c.toNat == 0x7F

/-- The text after a line end, if it starts with one. -/
def scanLineEnd? : List Char → Option (List Char)
  | '\n' :: cs => some cs
  | '\r' :: '\n' :: cs => some cs
  | _ => none

/-- The text after a comment, if it starts with one. -/
def skipComment? : List Char → Option (List Char)
  | '#' :: cs =>
    let rest := cs.dropWhile fun c => !isControl c
    if rest.isEmpty || (scanLineEnd? rest).isSome then some rest else none
  | cs => some cs

/-- The text after the end of a line: blanks, a comment, and a line end or the end of the
document. -/
def finishLine? (cs : List Char) : Option (List Char) := do
  let rest ← skipComment? (skipBlanks cs)
  if rest.isEmpty then some [] else scanLineEnd? rest

/-! ### Strings -/

/-- The character that a short escape names. -/
def shortEscape? (c : Char) : Option Char :=
  match c with
  | 'b' => some '\x08'
  | 't' => some '\t'
  | 'n' => some '\n'
  | 'f' => some '\x0c'
  | 'r' => some '\r'
  | '"' => some '"'
  | '\\' => some '\\'
  | _ => none

/-- An escape, from the character after the backslash. -/
def scanEscape? (cs : List Char) : Option (Char × List Char) :=
  match cs with
  | [] => none
  | c :: rest =>
    match shortEscape? c with
    | some d => some (d, rest)
    | none =>
      let length := if c = 'u' then 4 else if c = 'U' then 8 else 0
      let digits := rest.take length
      if length = 0 ∨ digits.length ≠ length then none
      else do
        let n ← readNatural? 16 digits
        if Nat.isValidChar n then some (Char.ofNat n, rest.drop length) else none

/-- The rest of a string with escapes, up to its quote. -/
def scanBasic? : Nat → List Char → Option (List Char × List Char)
  | 0, _ => none
  | fuel + 1, cs =>
    match cs with
    | [] => none
    | '"' :: rest => some ([], rest)
    | '\\' :: rest => do
      let (c, rest) ← scanEscape? rest
      let (text, rest) ← scanBasic? fuel rest
      return (c :: text, rest)
    | c :: rest =>
      if isControl c then none
      else do
        let (text, rest) ← scanBasic? fuel rest
        return (c :: text, rest)

/-- The rest of a string without escapes, up to its quote. -/
def scanLiteral? : List Char → Option (List Char × List Char)
  | [] => none
  | '\'' :: rest => some ([], rest)
  | c :: rest =>
    if isControl c then none
    else do
      let (text, rest) ← scanLiteral? rest
      return (c :: text, rest)

/-- The text after a line end at the start of a string of several lines. -/
def dropFirstLineEnd (cs : List Char) : List Char := (scanLineEnd? cs).getD cs

/-- Quotes at the end of a string of several lines: three close it, and up to two before
them belong to it. -/
def closingQuotes? (quote : Char) (cs : List Char) : Option (List Char × List Char) :=
  let run := (cs.takeWhile fun c => c == quote).length
  if run < 3 ∨ 5 < run then none
  else some (List.replicate (run - 3) quote, cs.drop run)

/-- A backslash before a line end, which takes the blanks and line ends after it along. -/
def skipFoldedLines? (cs : List Char) : Option (List Char) := do
  let rest ← scanLineEnd? (skipBlanks cs)
  return rest.dropWhile fun c => isBlankChar c || c == '\n' || c == '\r'

/-- The rest of a string of several lines, with escapes or without. -/
def scanLines? (quote : Char) (escapes : Bool) : Nat → List Char → Option (List Char × List Char)
  | 0, _ => none
  | fuel + 1, cs =>
    match closingQuotes? quote cs with
    | some found => some found
    | none =>
      match cs with
      | [] => none
      | c :: rest =>
        if escapes && c == '\\' then
          match skipFoldedLines? rest with
          | some rest => scanLines? quote escapes fuel rest
          | none => do
            let (d, rest) ← scanEscape? rest
            let (text, rest) ← scanLines? quote escapes fuel rest
            return (d :: text, rest)
        else
          match scanLineEnd? cs with
          | some rest => do
            let (text, rest) ← scanLines? quote escapes fuel rest
            return ('\n' :: text, rest)
          | none =>
            if isControl c then none
            else do
              let (text, rest) ← scanLines? quote escapes fuel rest
              return (c :: text, rest)

/-- **A string**, of any of the four kinds. -/
def scanString? (fuel : Nat) (cs : List Char) : Option (String × List Char) := do
  let (text, rest) ← match cs with
    | '"' :: '"' :: '"' :: rest => scanLines? '"' true fuel (dropFirstLineEnd rest)
    | '\'' :: '\'' :: '\'' :: rest => scanLines? '\'' false fuel (dropFirstLineEnd rest)
    | '"' :: rest => scanBasic? fuel rest
    | '\'' :: rest => scanLiteral? rest
    | _ => none
  return (String.ofList text, rest)

/-! ### Keys -/

/-- A character of a bare key. -/
def isBareChar (c : Char) : Bool := c.isAlphanum || c == '_' || c == '-'

/-- A key without dots, on one line. -/
def scanSimpleKey? (cs : List Char) : Option (String × List Char) :=
  match cs with
  | '"' :: rest => (scanBasic? (rest.length + 1) rest).map fun (s, rest) => (String.ofList s, rest)
  | '\'' :: rest => (scanLiteral? rest).map fun (s, rest) => (String.ofList s, rest)
  | cs =>
    match cs.takeWhile isBareChar with
    | [] => none
    | name => some (String.ofList name, cs.dropWhile isBareChar)

/-- **A dotted key**: the keys on the way, and the last one. -/
def scanKey? : Nat → List Char → Option ((List String × String) × List Char)
  | 0, _ => none
  | fuel + 1, cs => do
    let (key, rest) ← scanSimpleKey? cs
    match skipBlanks rest with
    | '.' :: rest => do
      let ((path, last), rest) ← scanKey? fuel (skipBlanks rest)
      return ((key :: path, last), rest)
    | _ => return (([], key), rest)

/-! ### Numbers -/

/-- A character that a number or a word may have. -/
def isWordChar (c : Char) : Bool := c.isAlphanum || c == '_' || c == '-' || c == '+' || c == '.'

/-- Digits with single underscores between them, without the underscores. -/
def plainDigits? (isDigit : Char → Bool) : List Char → Option (List Char)
  | [] => none
  | [c] => if isDigit c then some [c] else none
  | c :: '_' :: rest => if isDigit c then (plainDigits? isDigit rest).map (c :: ·) else none
  | c :: rest => if isDigit c then (plainDigits? isDigit rest).map (c :: ·) else none

/-- Digits of a base. -/
def based? (base : Nat) (cs : List Char) : Option Int := do
  let digits ← plainDigits? (fun c => (digitOf? base c).isSome) cs
  return (← readNatural? base digits : Nat)

/-- Decimal digits without a leading zero. -/
def wholeDigits? (cs : List Char) : Option (List Char) := do
  let digits ← plainDigits? Char.isDigit cs
  if digits.head? = some '0' ∧ digits.length ≠ 1 then none else some digits

/-- An integer. -/
def integer? (word : List Char) : Option Int :=
  match word with
  | '0' :: 'x' :: digits => based? 16 digits
  | '0' :: 'o' :: digits => based? 8 digits
  | '0' :: 'b' :: digits => based? 2 digits
  | word => do
    let (negative, cs) := takeSign word
    let n := Double.readDigits (← wholeDigits? cs)
    return if negative then -(n : Int) else n

/-- The exponent of a number, if there is one. -/
def exponent? : List Char → Option (List Char)
  | [] => some []
  | mark :: cs =>
    if mark = 'e' ∨ mark = 'E' then do
      let (negative, digits) := takeSign cs
      let digits ← plainDigits? Char.isDigit digits
      return 'e' :: (if negative then '-' :: digits else digits)
    else none

/-- A floating-point number, as a decimal without underscores. -/
def decimal? (word : List Char) : Option Decimal := do
  let (negative, cs) := takeSign word
  let isPart := fun c => c.isDigit || c == '_'
  let whole ← wholeDigits? (cs.takeWhile isPart)
  let cs := cs.dropWhile isPart
  let (fraction, cs) ← match cs with
    | '.' :: cs => do
      let digits ← plainDigits? Char.isDigit (cs.takeWhile isPart)
      some ('.' :: digits, cs.dropWhile isPart)
    | cs => some ([], cs)
  let power ← exponent? cs
  readDecimal? ((if negative then ['-'] else []) ++ whole ++ fraction ++ power)

/-- **The value of a word**: a truth value or a number. -/
def wordItem? (word : List Char) : Option Item :=
  if word = ['t', 'r', 'u', 'e'] then some (.boolean true)
  else if word = ['f', 'a', 'l', 's', 'e'] then some (.boolean false)
  else
    match integer? word with
    | some n =>
      if -0x8000000000000000 ≤ n ∧ n < 0x8000000000000000 then some (.number (Number.ofInt? n))
      else none
    | none =>
      let (_, unsigned) := takeSign word
      if unsigned = ['i', 'n', 'f'] ∨ unsigned = ['n', 'a', 'n'] then some (.number none)
      else do
        let x ← (← decimal? word).toDouble?
        return .number (some (.double x))

/-! ### Values -/

/-- The text after blanks, line ends and comments, as they may stand between the items of
a list. -/
def skipLines : Nat → List Char → List Char
  | 0, cs => cs
  | fuel + 1, cs =>
    let cs := skipBlanks cs
    match cs with
    | '#' :: _ =>
      match skipComment? cs with
      | some rest => skipLines fuel rest
      | none => cs
    | cs =>
      match scanLineEnd? cs with
      | some rest => skipLines fuel rest
      | none => cs

mutual

/-- **A value.** -/
def scanValue? : Nat → List Char → Option (Item × List Char)
  | 0, _ => none
  | fuel + 1, cs =>
    match cs with
    | '"' :: _ | '\'' :: _ => do
      let (text, rest) ← scanString? (fuel + 1) cs
      return (.string text, rest)
    | '[' :: rest => do
      let (items, rest) ← scanItems? fuel rest
      return (.array items, rest)
    | '\x7b' :: rest =>
      match skipBlanks rest with
      | '\x7d' :: rest => some (.table .inline [], rest)
      | rest => do
        let (table, rest) ← scanEntries? fuel ⟨.inline, []⟩ rest
        return (table.toItem, rest)
    | cs => do
      let item ← wordItem? (cs.takeWhile isWordChar)
      return (item, cs.dropWhile isWordChar)

/-- The items of a list, up to the bracket that ends it. -/
def scanItems? : Nat → List Char → Option (List Item × List Char)
  | 0, _ => none
  | fuel + 1, cs =>
    match skipLines (cs.length + 1) cs with
    | ']' :: rest => some ([], rest)
    | cs => do
      let (item, rest) ← scanValue? fuel cs
      match skipLines (rest.length + 1) rest with
      | ',' :: rest => do
        let (items, rest) ← scanItems? fuel rest
        return (item :: items, rest)
      | ']' :: rest => return ([item], rest)
      | _ => none

/-- The entries of an inline table, at least one, up to the brace that ends it. -/
def scanEntries? : Nat → Table → List Char → Option (Table × List Char)
  | 0, _, _ => none
  | fuel + 1, table, cs => do
    let ((path, key), rest) ← scanKey? (cs.length + 1) (skipBlanks cs)
    match skipBlanks rest with
    | '=' :: rest => do
      let (item, rest) ← scanValue? fuel (skipBlanks rest)
      let table ← table.insert? path key item
      match skipBlanks rest with
      | ',' :: rest => scanEntries? fuel table rest
      | '\x7d' :: rest => return (table, rest)
      | _ => none
    | _ => none

end

/-! ### Documents -/

/-- The path of a header, with so many brackets around it. -/
def scanHeader? (brackets : Nat) (cs : List Char) :
    Option ((List String × String) × List Char) := do
  let (key, rest) ← scanKey? (cs.length + 1) (skipBlanks (cs.drop brackets))
  let rest := skipBlanks rest
  if rest.take brackets = List.replicate brackets ']' then some (key, rest.drop brackets) else none

/-- **The lines of a document**, entered into its table; `current` is the path of the table
that keys go to. -/
def readLines? : Nat → List String → Table → List Char → Option Table
  | 0, _, _, _ => none
  | fuel + 1, current, root, cs =>
    match skipBlanks cs with
    | [] => some root
    | '[' :: '[' :: rest => do
      let ((path, key), rest) ← scanHeader? 2 ('[' :: '[' :: rest)
      let root ← root.openListItem? path key
      readLines? fuel (path ++ [key]) root (← finishLine? rest)
    | '[' :: rest => do
      let ((path, key), rest) ← scanHeader? 1 ('[' :: rest)
      let root ← root.openTable? path key
      readLines? fuel (path ++ [key]) root (← finishLine? rest)
    | '#' :: rest => do
      readLines? fuel current root (← finishLine? ('#' :: rest))
    | cs =>
      match scanLineEnd? cs with
      | some rest => readLines? fuel current root rest
      | none => do
        let ((path, key), rest) ← scanKey? (cs.length + 1) cs
        match skipBlanks rest with
        | '=' :: rest => do
          let rest := skipBlanks rest
          let (item, rest) ← scanValue? (2 * rest.length + 2) rest
          let root ← Table.within? false (Table.insert? path key item) current root
          readLines? fuel current root (← finishLine? rest)
        | _ => none

/-- **A TOML text as a table.** A byte order mark before its first character is not part
of it. -/
def read? (text : String) : Option Item := do
  let cs := text.toList
  let cs := if (cs.head?.map Char.toNat) == some 0xFEFF then cs.drop 1 else cs
  return (← readLines? (cs.length + 1) [] ⟨.headed, []⟩ cs).toItem

end Toml

end Blueprint
