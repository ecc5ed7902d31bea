import Blueprint.Template.Tag
import Blueprint.Text.Blank

/-!
# From the text of a template to its elements

A template is cut into texts and tags in turn (`cut?`); then the blanks that belong to
the tags rather than to the text are taken away (`settle`); and the tags of
blocks, which come in order, are nested (`nest?`).

## Blanks

* A tilde in a tag removes all blanks on its side.
* A tag of a block, or a comment, that is **alone on its line** takes the line with it:
  the spaces before it, and the spaces and the line break behind it.
* A text that holds only blanks gives way entirely to a tilde before it, and then the line
  break that a tag takes is looked for in the next text.

## Braces that are text

A backslash before two opening braces makes them text and is not printed. Of two or more
backslashes there, one is not printed, and the braces are those of a tag.
-/

namespace Blueprint

namespace Template

/-! ### Texts and tags in turn -/

/-- **The text before the next tag**, with what follows it. Some backslashes may have been
seen already. -/
def scanText : Nat → List Char → List Char × List Char
  | n, [] => (List.replicate n '\\', [])
  | n, '\\' :: cs => scanText (n + 1) cs
  | n, '\x7b' :: '\x7b' :: cs =>
    match n, cs with
    | 0, cs => ([], '\x7b' :: '\x7b' :: cs)
    | 1, '\x7b' :: '\x7b' :: cs =>
      let (text, rest) := scanText 0 cs
      ('\x7b' :: '\x7b' :: '\x7b' :: '\x7b' :: text, rest)
    | 1, cs =>
      let (text, rest) := scanText 0 cs
      ('\x7b' :: '\x7b' :: text, rest)
    | n + 2, cs => (List.replicate (n + 1) '\\', '\x7b' :: '\x7b' :: cs)
  | n, c :: cs =>
    let (text, rest) := scanText 0 cs
    (List.replicate n '\\' ++ c :: text, rest)

/-- A space or a tab. -/
def isLineSpace (c : Char) : Bool := c == ' ' || c == '\t'

/-- A line break, or the first half of one. -/
def isLineBreak (c : Char) : Bool := c == '\n' || c == '\r'

/-- The text without the spaces at its end. -/
def dropLineEnd (cs : List Char) : List Char := dropTrailing isLineSpace cs

/-- Nothing but spaces is left on the line, or of the whole template. -/
def endsLine (cs : List Char) : Bool :=
  match cs.dropWhile isLineSpace with
  | [] => true
  | c :: _ => isLineBreak c

/-- **A tag with the text before it.** -/
structure Section where
  /-- The text as it is printed, but for blanks that go. -/
  text : List Char
  tag : Tag
  /-- Nothing but spaces stands on the line before the tag and after it. -/
  isAlone : Bool

/-- **The template, cut into sections**, and the text behind the last tag. The first text
needs no line break before it to start a line. -/
def cut? : Nat → Bool → List Char → Option (List Section × List Char)
  | 0, _, _ => none
  | fuel + 1, isFirst, cs =>
    let (text, rest) := scanText 0 cs
    match rest with
    | [] => some ([], text)
    | start =>
      match scanTag (start.drop 2) with
      | .error _ => none
      | .ok (tag, rest) => do
        let before := dropLineEnd (spanned cs start)
        let startsLine := match before.getLast? with
          | some c => isLineBreak c
          | none => isFirst
        let (sections, last) ← cut? fuel false rest
        return (⟨text, tag, startsLine && endsLine rest⟩ :: sections, last)

/-! ### Blanks -/

/-- **What the tags so far take from the text that comes**: all blanks at its start, or the
rest of a line without text. -/
structure Trimming where
  blanks : Bool
  line : Bool

/-- The text without the rest of a line that has no text. -/
def dropLine (cs : List Char) : List Char :=
  match cs.dropWhile isLineSpace with
  | '\r' :: '\n' :: rest => rest
  | '\n' :: rest => rest
  | rest => rest

/-- **A text without what the tags before it take**, and what they still take after it. -/
def Trimming.take (t : Trimming) (text : List Char) : List Char × Trimming :=
  if text.isEmpty || (t.blanks && text.all isTagSpace) then ([], t)
  else
    (if t.blanks then text.dropWhile isBlank
      else if t.line then dropLine text else text, { t with line := false })

/-- A tag that can take its whole line with it. -/
def TagKind.canTakeLine : TagKind → Bool
  | .opening _ | .otherwise | .otherwiseIf _ | .closing _ | .comment => true
  | .output _ | .inclusion => false

/-- What a section takes from the next text. A comment leaves the blanks to the tag before
it, and a value the line. -/
def Section.trimming (part : Section) (before : Trimming) : Trimming where
  blanks := match part.tag.kind with
    | .comment => before.blanks
    | _ => part.tag.trimsAfter
  line := if part.tag.kind.canTakeLine then part.isAlone else before.line

/-- A text or a tag, with its blanks settled. -/
inductive Piece where
  | text (value : String)
  | tag (kind : TagKind)

/-- The piece of a text, or none if nothing is left. -/
def textPiece (text : List Char) : List Piece :=
  if text.isEmpty then [] else [.text (String.ofList text)]

/-- The text of a section without what its own tag takes. -/
def Section.leave (part : Section) (text : List Char) : List Char :=
  let text := if part.tag.trimsBefore then dropTrailing isBlank text else text
  if part.tag.kind.canTakeLine && part.isAlone then dropLineEnd text else text

/-- **The pieces of a template**, given what is taken from its start. -/
def settle (t : Trimming) (last : List Char) : List Section → List Piece
  | [] => textPiece (t.take last).1
  | part :: parts =>
    let (text, left) := t.take part.text
    textPiece (part.leave text) ++ .tag part.tag.kind :: settle (part.trimming left) last parts

/-! ### Nesting -/

mutual

/-- **The elements up to the tag that ends them**, which is left with what follows. -/
def nestElements? : Nat → List Piece → Option (List TemplateElement × List Piece)
  | 0, _ => none
  | _, [] => some ([], [])
  | fuel + 1, .text value :: pieces => do
    let (elements, rest) ← nestElements? fuel pieces
    return (.text value :: elements, rest)
  | fuel + 1, .tag kind :: pieces =>
    match kind with
    | .output call => do
      let (elements, rest) ← nestElements? fuel pieces
      return (.output call :: elements, rest)
    | .inclusion => do
      let (elements, rest) ← nestElements? fuel pieces
      return (.inclusion :: elements, rest)
    | .comment => nestElements? fuel pieces
    | .opening head => do
      let (block, rest) ← nestBlock? fuel head.name head pieces
      let (elements, rest) ← nestElements? fuel rest
      return (block :: elements, rest)
    | .otherwise | .otherwiseIf _ | .closing _ => some ([], .tag kind :: pieces)

/-- **A block behind its head**, up to the closing tag of a name. A block that starts with
the other part of another one is all of that part, and both end together. -/
def nestBlock? : Nat → String → BlockHead → List Piece → Option (TemplateElement × List Piece)
  | 0, _, _, _ => none
  | fuel + 1, name, head, pieces => do
    let (body, rest) ← nestElements? fuel pieces
    match rest with
    | .tag (.closing closed) :: rest =>
      if closed = name then return (.block head body false [], rest) else none
    | .tag .otherwise :: rest =>
      let (otherwise, rest) ← nestElements? fuel rest
      match rest with
      | .tag (.closing closed) :: rest =>
        if closed = name then return (.block head body true otherwise, rest) else none
      | _ => none
    | .tag (.otherwiseIf inner) :: rest =>
      let (block, rest) ← nestBlock? fuel name inner rest
      return (.block head body true [block], rest)
    | _ => none

end

/-- The elements of pieces whose blocks are all closed. -/
def nest? (pieces : List Piece) : Option (List TemplateElement) :=
  match nestElements? (2 * pieces.length + 2) pieces with
  | some (elements, []) => some elements
  | _ => none

/-- **The elements of a template**, unless its text is no template. -/
def read? (source : String) : Option (List TemplateElement) := do
  let cs := source.toList
  let (sections, last) ← cut? (cs.length + 1) true cs
  nest? (settle ⟨false, false⟩ last sections)

end Template

end Blueprint
