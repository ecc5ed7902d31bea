import Blueprint.Text.Letters

/-!
# Naming styles

One name is needed in many spellings: `order-line`, `ORDER_LINE`, `OrderLine`. A name is
split into words (`splitWords`) and the words are joined again in one of six styles.

Splitting follows the separators `-`, blank, `|` and `:` when the name has any of them.
Otherwise a word starts at a capital letter that follows a small letter or a digit, and at
the last letter of a run of capitals when a small letter follows it, so that `HTTPServer`
is `HTTP` and `Server`. An underscore separates nothing.
-/

namespace Blueprint

/-! ### Words -/

/-- A character that separates words. -/
def isSeparator (c : Char) : Bool := c == '-' || c == ' ' || c == '|' || c == ':'

/-- The runs of characters between separators, empty ones included. -/
def splitRuns : List Char → List (List Char)
  | [] => [[]]
  | c :: cs =>
    match splitRuns cs with
    | [] => [[]]
    | run :: runs => if isSeparator c then [] :: run :: runs else (c :: run) :: runs

/-- **A word starts** at the character `c` after `before`, given what follows it. -/
def startsWord (before c : Char) (after : List Char) : Bool :=
  isUpper c && (isLower before || before.isDigit ||
    (isUpper before && (match after with
      | next :: _ => isLower next
      | [] => false)))

/-- The words of characters that follow `before` in the same word or start a new
one: the rest of that word, and the words after it. -/
def splitHumps (before : Char) : List Char → List Char × List (List Char)
  | [] => ([], [])
  | c :: cs =>
    let (word, words) := splitHumps c cs
    if startsWord before c cs then ([], (c :: word) :: words) else (c :: word, words)

/-- The words of a name without separators. -/
def humps : List Char → List (List Char)
  | [] => []
  | c :: cs =>
    let (word, words) := splitHumps c cs
    (c :: word) :: words

/-- **The words of a name.** -/
def splitWords (name : List Char) : List (List Char) :=
  if name.any isSeparator then (splitRuns name).filter fun word => !word.isEmpty
  else humps name

/-! ### Styles -/

/-- A word with a capital at its start and small letters after it. -/
def capitalize : List Char → List Char
  | [] => []
  | c :: cs => upperOf c ++ cs.flatMap lowerOf

/-- **The styles a name is written in.** -/
inductive NamingStyle where
  | kebab
  | snake
  | upperKebab
  | upperSnake
  | pascal
  | camel
deriving DecidableEq

/-- Words joined by a separator. -/
def joinWords (separator : List Char) (words : List (List Char)) : List Char :=
  separator.intercalate words

/-- Words in camel case: the first one small, the others with a capital. -/
def camelWords : List (List Char) → List Char
  | [] => []
  | word :: words => lowerWord word ++ (words.map capitalize).flatten

/-- Words joined in a style. -/
def NamingStyle.join (style : NamingStyle) (words : List (List Char)) : List Char :=
  match style with
  | .kebab => joinWords ['-'] (words.map lowerWord)
  | .snake => joinWords ['_'] (words.map lowerWord)
  | .upperKebab => joinWords ['-'] (words.map upperWord)
  | .upperSnake => joinWords ['_'] (words.map upperWord)
  | .pascal => (words.map capitalize).flatten
  | .camel => camelWords words

/-- **A name in a style.** -/
def NamingStyle.apply (style : NamingStyle) (name : String) : String :=
  String.ofList (style.join (splitWords name.toList))

end Blueprint
