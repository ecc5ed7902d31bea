import Blueprint.Yaml.Scalar

/-!
# Scanning YAML documents

A document becomes its list of tokens. Three rules make this more than splitting. The
column of a token opens and closes block collections (`Scanner.indentTo`,
`Scanner.unindentTo`). A scalar or flow collection may turn out to be the key of a
mapping once a colon follows it, on the same line and within 1024 characters; until that
is known it is a candidate, and the key token is put in front of it afterwards
(`Candidate`, `Scanner.fetchValue?`). And where a key may start depends on what stands
before it (`Scanner.keyAllowed`).

Directives, anchors, aliases, tags and block scalars are not read.
-/

namespace Blueprint

namespace Yaml

/-- **A place where a key may have started**: how many tokens stood before it, where it
was, and whether nothing else can start there. -/
structure Candidate where
  before : Nat
  index : Nat
  line : Nat
  column : Nat
  required : Bool

/-- **The state of a scan.** Columns of block collections are counted from one, so that
zero stands for being outside of all. -/
structure Scanner where
  cursor : Cursor
  /-- The tokens found, the last one first. -/
  found : List Token
  /-- The column of the innermost block collection, and of those around it. -/
  indent : Nat
  indents : List Nat
  /-- The candidates of the flow collections around the cursor, innermost first, and
  last the one of the block context. -/
  candidate : Option Candidate
  outer : List (Option Candidate)
  keyAllowed : Bool

namespace Scanner

/-- The scanner at the start of a document. -/
def start (cs : List Char) : Scanner := ⟨.start cs, [], 0, [], none, [], true⟩

/-- The cursor is inside a flow collection. -/
def inFlow (s : Scanner) : Bool := !s.outer.isEmpty

/-- The column of the cursor, counted from one. -/
def column (s : Scanner) : Nat := s.cursor.column + 1

/-- A token added at the end. -/
def emit (s : Scanner) (t : Token) : Scanner := { s with found := t :: s.found }

/-- A token put behind the first `n`. -/
def insertAt (s : Scanner) (n : Nat) (t : Token) : Scanner :=
  { s with found := s.found.insertIdx (s.found.length - n) t }

/-! ### Blanks and comments -/

/-- **The cursor at the next token**: past blanks, comments and line breaks, where a line
break in block context allows a key. -/
def skipBlanks : Nat → Scanner → Scanner
  | 0, s => s
  | fuel + 1, s =>
    match s.cursor.rest with
    | [] => s
    | c :: _ =>
      if s.cursor.column == 0 && c.toNat == 0xFEFF then
        skipBlanks fuel { s with cursor := s.cursor.skip }
      else if c == ' ' || (c == '\t' && (s.inFlow || !s.keyAllowed)) then
        skipBlanks fuel { s with cursor := s.cursor.skip }
      else if c == '#' then
        let length := (s.cursor.rest.takeWhile fun d => !isBreak d).length
        skipBlanks fuel { s with cursor := s.cursor.skipMany length }
      else if isBreak c then
        skipBlanks fuel
          { s with cursor := s.cursor.skipBreak, keyAllowed := s.keyAllowed || !s.inFlow }
      else s

/-! ### Indentation -/

/-- **Block collections closed** until the innermost one starts at the column or before
it. -/
def unindentTo (column : Nat) (s : Scanner) : Scanner :=
  if s.inFlow then s
  else go s.indents s
where
  /-- One collection closed after the other. -/
  go : List Nat → Scanner → Scanner
    | [], s => s
    | outer :: rest, s =>
      if column < s.indent then
        go rest { s.emit .blockEnd with indent := outer, indents := rest }
      else s

/-- **A block collection opened** at a column, if none starts there, with its token
behind the first `n`. -/
def indentTo (column : Nat) (n : Nat) (t : Token) (s : Scanner) : Scanner :=
  if !s.inFlow && s.indent < column then
    { s.insertAt n t with indent := column, indents := s.indent :: s.indents }
  else s

/-! ### Candidates for keys -/

/-- A candidate given up, which fails when nothing but a key can start there. -/
def dropCandidate? (s : Scanner) : Option Scanner :=
  match s.candidate with
  | some c => if c.required then none else some { s with candidate := none }
  | none => some s

/-- A candidate at the cursor, if a key is allowed there. -/
def saveCandidate? (s : Scanner) : Option Scanner :=
  if s.keyAllowed then do
    let required := !s.inFlow && s.indent == s.column
    let s ← s.dropCandidate?
    let c := s.cursor
    return { s with
      candidate := some ⟨s.found.length, c.index, c.line, c.column + 1, required⟩ }
  else some s

/-- The candidate is too far away to be a key. -/
def isStale (c : Cursor) (k : Candidate) : Bool := k.line < c.line || k.index + 1024 < c.index

/-- A candidate that may still be a key. -/
def refresh? (c : Cursor) : Option Candidate → Option (Option Candidate)
  | none => some none
  | some k => if isStale c k then (if k.required then none else some none) else some (some k)

/-- Candidates that are too far away given up. -/
def dropStale? (s : Scanner) : Option Scanner := do
  let candidate ← refresh? s.cursor s.candidate
  let outer ← s.outer.mapM (refresh? s.cursor)
  return { s with candidate, outer }

/-! ### Tokens -/

/-- So many characters passed, and a token for them. -/
def take (s : Scanner) (n : Nat) (t : Token) : Scanner :=
  { s.emit t with cursor := s.cursor.skipMany n }

/-- The end of the document. -/
def finish? (s : Scanner) : Option Scanner := do
  let s ← (s.unindentTo 0).dropCandidate?
  return { s with keyAllowed := false }

/-- A document marker. -/
def fetchMarker? (s : Scanner) (t : Token) : Option Scanner := do
  let s ← (s.unindentTo 0).dropCandidate?
  return { s with keyAllowed := false }.take 3 t

/-- The start of a flow collection. -/
def fetchFlowStart? (s : Scanner) (t : Token) : Option Scanner := do
  let s ← s.saveCandidate?
  return { s with candidate := none, outer := s.candidate :: s.outer, keyAllowed := true }.take 1 t

/-- The end of a flow collection. -/
def fetchFlowEnd? (s : Scanner) (t : Token) : Option Scanner := do
  let s ← s.dropCandidate?
  match s.outer with
  | [] => return { s with keyAllowed := false }.take 1 t
  | candidate :: outer => return { s with candidate, outer, keyAllowed := false }.take 1 t

/-- A comma of a flow collection. -/
def fetchFlowEntry? (s : Scanner) : Option Scanner := do
  let s ← s.dropCandidate?
  return { s with keyAllowed := true }.take 1 .flowEntry

/-- The dash of a block sequence. -/
def fetchBlockEntry? (s : Scanner) : Option Scanner := do
  if !s.inFlow && !s.keyAllowed then none
  else
    let s ← (s.indentTo s.column s.found.length .blockSequenceStart).dropCandidate?
    return { s with keyAllowed := true }.take 1 .blockEntry

/-- The mark of an explicit key. -/
def fetchKey? (s : Scanner) : Option Scanner := do
  if !s.inFlow && !s.keyAllowed then none
  else
    let s ← (s.indentTo s.column s.found.length .blockMappingStart).dropCandidate?
    return { s with keyAllowed := !s.inFlow }.take 1 .key

/-- **The colon of a mapping**, which makes the candidate a key. -/
def fetchValue? (s : Scanner) : Option Scanner :=
  match s.candidate with
  | some k =>
    let s := (s.insertAt k.before .key).indentTo k.column k.before .blockMappingStart
    some ({ s with candidate := none, keyAllowed := false }.take 1 .value)
  | none =>
    if !s.inFlow && !s.keyAllowed then none
    else
      let s := s.indentTo s.column s.found.length .blockMappingStart
      some ({ s with keyAllowed := !s.inFlow }.take 1 .value)

/-- A scalar between quotes. -/
def fetchQuoted? (s : Scanner) (single : Bool) : Option Scanner := do
  let s ← s.saveCandidate?
  let (text, cursor) ← scanQuoted? single (s.cursor.rest.length + 1) s.cursor.skip []
  return { s.emit (.scalar text false) with cursor, keyAllowed := false }

/-- A scalar without quotes. -/
def fetchPlain? (s : Scanner) : Option Scanner := do
  let s ← s.saveCandidate?
  let scalar ← scanPlain? s.inFlow s.indent (s.cursor.rest.length + 1) s.cursor [] .none
  return { s.emit (.scalar (String.ofList scalar.text) true) with
    cursor := scalar.after, keyAllowed := scalar.broken }

/-- A character that starts no plain scalar, unless what follows makes it part of
one. -/
def isIndicator (c : Char) : Bool :=
  isFlowIndicator c || c == '-' || c == '?' || c == ':' || c == '#' || c == '&' || c == '*' ||
    c == '!' || c == '|' || c == '>' || c == '\'' || c == '"' || c == '%' || c == '@' ||
    c.toNat == 0x60

/-- **The next token**, at the first character of what is left. -/
def fetch? (s : Scanner) (c : Char) (next : List Char) : Option Scanner :=
  if s.cursor.column == 0 && c == '%' then none
  else if s.cursor.atMarker '-' then s.fetchMarker? .documentStart
  else if s.cursor.atMarker '.' then s.fetchMarker? .documentEnd
  else if c == '[' then s.fetchFlowStart? .flowSequenceStart
  else if c == '\x7b' then s.fetchFlowStart? .flowMappingStart
  else if c == ']' then s.fetchFlowEnd? .flowSequenceEnd
  else if c == '\x7d' then s.fetchFlowEnd? .flowMappingEnd
  else if c == ',' then s.fetchFlowEntry?
  else if c == '-' && atBlank next then s.fetchBlockEntry?
  else if c == '?' && (s.inFlow || atBlank next) then s.fetchKey?
  else if c == ':' && (s.inFlow || atBlank next) then s.fetchValue?
  else if c == '\'' then s.fetchQuoted? true
  else if c == '"' then s.fetchQuoted? false
  else if !(isIndicator c || isBlankChar c || isBreak c) || (c == '-' && !atSpace next) ||
      (!s.inFlow && (c == '?' || c == ':') && !atBlank next) then
    s.fetchPlain?
  else none

/-- Tokens fetched until the document ends. -/
def run? : Nat → Scanner → Option Scanner
  | 0, _ => none
  | fuel + 1, s => do
    let s := skipBlanks (s.cursor.rest.length + 1) s
    let s ← s.dropStale?
    let s := s.unindentTo s.column
    match s.cursor.rest with
    | [] => s.finish?
    | c :: next => run? fuel (← s.fetch? c next)

end Scanner

/-- **The tokens of a document.** -/
def tokens? (text : String) : Option (List Token) :=
  let cs := text.toList
  if cs.all isAllowed then
    (Scanner.run? (cs.length + 2) (.start cs)).map fun s => s.found.reverse
  else none

end Yaml

end Blueprint
