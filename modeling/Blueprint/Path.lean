/-!
# Paths

A path is a text of names between slashes. It is kept as it is: joining two paths puts
one behind the other, the parent of a path is a shorter path with the same beginning, and
empty parts and parts that are a single dot stay where they are. They are only passed
over when the last name of a path is looked for.

| notion | meaning |
|---|---|
| `Path.join` | a path as seen from another one |
| `Path.parent?` | the path without its last name |
| `Path.fileName?` | the last name |
| `Path.sibling` | a path with another last name |
-/

namespace Blueprint

namespace Path

/-- The parts of a text between slashes. -/
def splitSlashes : List Char → List (List Char)
  | [] => [[]]
  | c :: cs =>
    match splitSlashes cs with
    | [] => [[]]
    | part :: parts => if c = '/' then [] :: part :: parts else (c :: part) :: parts

/-- **The parts of a path**, empty ones included. -/
def segments (path : String) : List String :=
  (splitSlashes path.toList).map String.ofList

/-- Parts with slashes between them. -/
def ofSegments (parts : List String) : String := String.intercalate "/" parts

/-- The path starts at the root. -/
def isAbsolute (path : String) : Bool := path.toList.head? == some '/'

/-- **A path as seen from another one**: an absolute path stays as it is, and any other
one comes behind the first, with a slash between them if there is none. -/
def join (base path : String) : String :=
  if isAbsolute path || base = "" then path
  else if base.toList.getLast? = some '/' then base ++ path
  else base ++ "/" ++ path

/-- A part that names nothing. -/
def isSilent (part : String) : Bool := part = "" || part = "."

/-- The parts up to the last one that names something, where the first part of a path
always counts. -/
def dropSilent (parts : List String) : List String :=
  match parts with
  | [] => []
  | first :: rest => first :: (rest.reverse.dropWhile isSilent).reverse

/-- The parts are those of the root, or of the empty path. -/
def isTop (parts : List String) : Bool := parts = [] || parts = [""]

/-- **The path without its last name.** The root and the empty path have no parent; the
parent of a single name is the empty path. -/
def parent? (path : String) : Option String :=
  let parts := dropSilent (segments path)
  if isTop parts then none
  else
    let parts := dropSilent parts.dropLast
    some (if parts = [""] then "/" else ofSegments parts)

/-- **The last name of a path.** A path that ends in two dots has none, and neither has a
single dot. -/
def fileName? (path : String) : Option String :=
  let parts := dropSilent (segments path)
  if isTop parts then none
  else
    match parts.getLast? with
    | some name => if name = ".." || isSilent name then none else some name
    | none => none

/-- A path with another last name. -/
def sibling (path name : String) : String := join ((parent? path).getD "") name

/-- A path and its ancestors, as long as they have a parent, longest first. -/
def ancestorsFrom : Nat → String → List String
  | 0, _ => []
  | fuel + 1, path =>
    match parent? path with
    | none => []
    | some parent => path :: ancestorsFrom fuel parent

/-- **A path and its ancestors**, longest first, without the root and the empty path. -/
def ancestors (path : String) : List String := ancestorsFrom (segments path).length path

end Path

end Blueprint
