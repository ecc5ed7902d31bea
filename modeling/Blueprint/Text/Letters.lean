import Blueprint.Text.LetterTables

/-!
# Upper and lower case

The two cases of the letters of all scripts. Which characters are of which case are the
Unicode properties `Uppercase` and `Lowercase`; a titlecase letter is of neither. The
mappings are the full ones, so one character may become several, and they do not depend
on a language. Lowering a word looks at the neighbours of a capital sigma: at the end of
a word it becomes `ς`, elsewhere `σ`.

ASCII is decided before the tables are looked at.
-/

namespace Blueprint

/-- The code point is in the stretch. -/
def Stretch.contains (s : Stretch) (n : Nat) : Bool :=
  s.first ≤ n && n ≤ s.last && (n - s.first) % s.step == 0

/-- The code point is in the stretch. -/
def CaseStretch.contains (s : CaseStretch) (n : Nat) : Bool :=
  s.first ≤ n && n ≤ s.last && (n - s.first) % s.step == 0

/-- A capital letter of ASCII. -/
def isAsciiUpper (c : Char) : Bool := 'A' ≤ c && c ≤ 'Z'

/-- A small letter of ASCII. -/
def isAsciiLower (c : Char) : Bool := 'a' ≤ c && c ≤ 'z'

/-- **An upper case letter**, by the property `Uppercase`. -/
def isUpper (c : Char) : Bool :=
  if c.toNat < 128 then isAsciiUpper c else upperCaseStretches.any (·.contains c.toNat)

/-- **A lower case letter**, by the property `Lowercase`. -/
def isLower (c : Char) : Bool :=
  if c.toNat < 128 then isAsciiLower c else lowerCaseStretches.any (·.contains c.toNat)

/-- A letter of any case, by the property `Cased`. -/
def isCased (c : Char) : Bool :=
  if c.toNat < 128 then isAsciiUpper c || isAsciiLower c
  else casedStretches.any (·.contains c.toNat)

/-- A character that is passed over when the letters around a sigma are looked for, by the
property `Case_Ignorable`. -/
def isCaseIgnorable (c : Char) : Bool :=
  if c.toNat < 128 then
    c == '\'' || c == '.' || c == ':' || c == '^' || c.toNat == 0x60
  else caseIgnorableStretches.any (·.contains c.toNat)

/-- The code point that a table maps another one to. -/
def mapCodePoint (table : List CaseStretch) (n : Nat) : Nat :=
  match table.find? (·.contains n) with
  | some s => ((n : Int) + s.distance).toNat
  | none => n

/-- **The upper case of a character**, which may be several characters. -/
def upperOf (c : Char) : List Char :=
  if c.toNat < 128 then
    if isAsciiLower c then [Char.ofNat (c.toNat - 32)] else [c]
  else
    match toUpperSequences.find? fun entry => entry.1 == c.toNat with
    | some entry => entry.2.map Char.ofNat
    | none => [Char.ofNat (mapCodePoint toUpperStretches c.toNat)]

/-- **The lower case of a character**, which is one character but for the capital `I`
with a dot. -/
def lowerOf (c : Char) : List Char :=
  if c.toNat < 128 then
    if isAsciiUpper c then [Char.ofNat (c.toNat + 32)] else [c]
  else if c.toNat = 0x130 then ['i', Char.ofNat 0x307]
  else [Char.ofNat (mapCodePoint toLowerStretches c.toNat)]

/-- The first character that is not passed over is a letter. -/
def meetsLetter (cs : List Char) : Bool :=
  match cs.dropWhile isCaseIgnorable with
  | c :: _ => isCased c
  | [] => false

/-- The lower case of characters that follow others; `before` is what precedes them,
backwards. -/
def lowerAfter (before : List Char) : List Char → List Char
  | [] => []
  | c :: rest =>
    let lower :=
      if c.toNat = 0x3A3 then
        if meetsLetter before && !meetsLetter rest then ['ς'] else ['σ']
      else lowerOf c
    lower ++ lowerAfter (c :: before) rest

/-- **A word in lower case.** -/
def lowerWord (cs : List Char) : List Char := lowerAfter [] cs

/-- **A word in upper case.** -/
def upperWord (cs : List Char) : List Char := cs.flatMap upperOf

end Blueprint
