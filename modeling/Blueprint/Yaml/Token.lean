/-!
# Tokens of a YAML document

A document is scanned into indicators and scalars before its structure is looked at.
Indentation and implicit keys are settled by the scanner: it marks where a block
collection starts and ends, and puts a `key` in front of every scalar or flow collection
that a colon turns into one.

The position of a character matters as much as the character, so a scanner reads from a
`Cursor`, which counts lines, columns and characters.
-/

namespace Blueprint

namespace Yaml

/-! ### Tokens -/

/-- What the scanner finds. A plain scalar is one without quotes. -/
inductive Token where
  | documentStart
  | documentEnd
  | blockSequenceStart
  | blockMappingStart
  | blockEnd
  | flowSequenceStart
  | flowSequenceEnd
  | flowMappingStart
  | flowMappingEnd
  | blockEntry
  | flowEntry
  | key
  | value
  | scalar (text : String) (plain : Bool)
deriving DecidableEq

/-! ### Characters -/

/-- A character that a document may hold. -/
def isAllowed (c : Char) : Bool :=
  let n := c.toNat
  n == 0x09 || n == 0x0A || n == 0x0D || (0x20 ≤ n && n ≤ 0x7E) || n == 0x85 ||
    (0xA0 ≤ n && n ≤ 0xFFFD) || 0x10000 ≤ n

def isBreak (c : Char) : Bool :=
  c == '\r' || c == '\n' || c.toNat == 0x85 || c.toNat == 0x2028 || c.toNat == 0x2029

def isBlankChar (c : Char) : Bool := c == ' ' || c == '\t'

/-- The text starts with a blank or a line break, or is at its end. -/
def atBlank : List Char → Bool
  | [] => true
  | c :: _ => isBlankChar c || isBreak c

/-- The text starts with a blank. -/
def atSpace : List Char → Bool
  | [] => false
  | c :: _ => isBlankChar c

/-- The text starts with a line break. -/
def atBreak : List Char → Bool
  | [] => false
  | c :: _ => isBreak c

/-! ### Cursors -/

/-- **A place in a document**: what is left of it, and the characters, lines and columns
passed. -/
structure Cursor where
  rest : List Char
  index : Nat
  line : Nat
  column : Nat

namespace Cursor

/-- The cursor at the start of a text. -/
def start (cs : List Char) : Cursor := ⟨cs, 0, 0, 0⟩

/-- One character further, on the same line. -/
def skip (c : Cursor) : Cursor := ⟨c.rest.drop 1, c.index + 1, c.line, c.column + 1⟩

/-- So many characters further, on the same line. -/
def skipMany (c : Cursor) (n : Nat) : Cursor := ⟨c.rest.drop n, c.index + n, c.line, c.column + n⟩

/-- One line break further, where a carriage return takes the line feed after it
along. -/
def skipBreak (c : Cursor) : Cursor :=
  match c.rest with
  | '\r' :: '\n' :: rest => ⟨rest, c.index + 2, c.line + 1, 0⟩
  | b :: rest => if isBreak b then ⟨rest, c.index + 1, c.line + 1, 0⟩ else c
  | [] => c

/-- The text of the line break at the cursor: a line feed, or the separator that stands
there. -/
def breakText (c : Cursor) : List Char :=
  match c.rest with
  | b :: _ => if b.toNat == 0x2028 || b.toNat == 0x2029 then [b] else ['\n']
  | [] => []

/-- A document marker stands at the cursor, three times the same character at the start
of a line. -/
def atMarker (c : Cursor) (mark : Char) : Bool :=
  c.column == 0 && c.rest.take 3 == [mark, mark, mark] && atBlank (c.rest.drop 3)

/-- Either document marker stands at the cursor. -/
def atDocumentMarker (c : Cursor) : Bool := c.atMarker '-' || c.atMarker '.'

end Cursor

end Yaml

end Blueprint
