/-!
# Blank characters and trimmed texts

Names, file paths and enumeration values are read with the blanks around them
removed, and an identifier may hold no blank at all. What counts as blank is the
Unicode property `White_Space`, which is larger than the six ASCII characters and
smaller than “everything invisible”: the zero-width space, the byte order mark and
the Mongolian vowel separator are ordinary characters.

| notion | meaning |
|---|---|
| `isBlank` | the property, as ranges of code points |
| `trimBlanks` | a list of characters without the blanks at either end |
| `trim` | the same of a text |
-/

namespace Blueprint

/-- **The blank characters**, those with the Unicode property `White_Space`. -/
def isBlank (c : Char) : Bool :=
  (0x09 ≤ c.toNat && c.toNat ≤ 0x0D) || c.toNat == 0x20 || c.toNat == 0x85 ||
  c.toNat == 0xA0 || c.toNat == 0x1680 || (0x2000 ≤ c.toNat && c.toNat ≤ 0x200A) ||
  c.toNat == 0x2028 || c.toNat == 0x2029 || c.toNat == 0x202F || c.toNat == 0x205F ||
  c.toNat == 0x3000

/-- The characters up to the last one that fails `p`. -/
def dropTrailing (p : Char → Bool) (cs : List Char) : List Char :=
  (cs.reverse.dropWhile p).reverse

/-- The characters of a text between its first and its last character that is not
blank. -/
def trimBlanks (cs : List Char) : List Char :=
  dropTrailing isBlank (cs.dropWhile isBlank)

/-- A text without the blanks at its two ends. -/
def trim (s : String) : String :=
  String.ofList (trimBlanks s.toList)

/-- A text has a blank somewhere. -/
def hasBlank (s : String) : Bool :=
  s.toList.any isBlank

end Blueprint
