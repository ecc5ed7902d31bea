import Blueprint.Tree

/-!
# Writing JSON

`Json.compact` writes a tree without any blank, `Json.pretty` with one entry a line and
two blanks for each level. Both keep the order of entries. A string escapes the quote,
the backslash and the control characters below U+0020, and nothing else.
-/

namespace Blueprint

namespace Json

/-- A hexadecimal digit, in lower case. -/
def hexDigit (n : Nat) : Char :=
  if n < 10 then Char.ofNat ('0'.toNat + n) else Char.ofNat ('a'.toNat + (n - 10))

/-- **A character inside a string.** -/
def escapeChar (c : Char) : List Char :=
  if c = '"' then ['\\', '"']
  else if c = '\\' then ['\\', '\\']
  else if c = '\x08' then ['\\', 'b']
  else if c = '\x0c' then ['\\', 'f']
  else if c = '\n' then ['\\', 'n']
  else if c = '\r' then ['\\', 'r']
  else if c = '\t' then ['\\', 't']
  else if c.toNat < 0x20 then
    ['\\', 'u', '0', '0', hexDigit (c.toNat / 16), hexDigit (c.toNat % 16)]
  else [c]

/-- A text between quotes. -/
def quote (s : String) : List Char := '"' :: (s.toList.flatMap escapeChar ++ ['"'])

mutual

/-- **A tree without blanks.** -/
def compactChars : Tree → List Char
  | .null => "null".toList
  | .boolean b => (Tree.booleanText b).toList
  | .number n => n.text.toList
  | .string s => quote s
  | .sequence items => '[' :: (compactItems items ++ [']'])
  | .mapping entries => '\x7b' :: (compactEntries entries ++ ['\x7d'])

/-- Trees with commas between them. -/
def compactItems : List Tree → List Char
  | [] => []
  | [t] => compactChars t
  | t :: rest => compactChars t ++ ',' :: compactItems rest

/-- Entries with commas between them. -/
def compactEntries : List (String × Tree) → List Char
  | [] => []
  | [(k, t)] => quote k ++ ':' :: compactChars t
  | (k, t) :: rest => quote k ++ ':' :: (compactChars t ++ ',' :: compactEntries rest)

end

/-- A line break and the blanks of a level. -/
def newLine (level : Nat) : List Char := '\n' :: List.replicate (2 * level) ' '

mutual

/-- **A tree with one entry a line**, inside so many levels. -/
def prettyChars (level : Nat) : Tree → List Char
  | .null => "null".toList
  | .boolean b => (Tree.booleanText b).toList
  | .number n => n.text.toList
  | .string s => quote s
  | .sequence [] => ['[', ']']
  | .sequence items => '[' :: (prettyItems (level + 1) items ++ newLine level ++ [']'])
  | .mapping [] => ['\x7b', '\x7d']
  | .mapping entries =>
    '\x7b' :: (prettyEntries (level + 1) entries ++ newLine level ++ ['\x7d'])

/-- Trees on lines of their own. -/
def prettyItems (level : Nat) : List Tree → List Char
  | [] => []
  | [t] => newLine level ++ prettyChars level t
  | t :: rest => newLine level ++ prettyChars level t ++ ',' :: prettyItems level rest

/-- Entries on lines of their own. -/
def prettyEntries (level : Nat) : List (String × Tree) → List Char
  | [] => []
  | [(k, t)] => newLine level ++ quote k ++ ':' :: ' ' :: prettyChars level t
  | (k, t) :: rest =>
    newLine level ++ quote k ++ ':' :: ' ' ::
      (prettyChars level t ++ ',' :: prettyEntries level rest)

end

/-- The compact text of a tree. -/
def compact (t : Tree) : String := String.ofList (compactChars t)

/-- The indented text of a tree. -/
def pretty (t : Tree) : String := String.ofList (prettyChars 0 t)

end Json

end Blueprint
