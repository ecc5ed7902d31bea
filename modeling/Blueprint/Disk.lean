import Blueprint.Path

/-!
# Disks

A disk is a tree of directories with files in it. A place in it is the list of names that
lead there from the root, and the disk knows what is at each place; there are no links.
Paths are followed from the working directory, part by part: an empty part or a single
dot stays, two dots go up, and a name goes down. Every part but the last must be a
directory, and a slash at the end asks for one.

Faults have the kind and the wording that operating systems give them.
-/

namespace Blueprint

/-- **Why an operation on the disk fails.** -/
inductive DiskFault where
  | notFound
  | isADirectory
  | notADirectory
  | alreadyExists
  | resourceBusy
  /-- The bytes of a file are no text. -/
  | invalidData
  /-- A path to write to has no last name. -/
  | noFileName
  /-- A path holds the character that ends one. -/
  | endMarkInPath
deriving DecidableEq

/-- The kind of a fault. -/
def DiskFault.kind : DiskFault → String
  | .notFound => "NotFound"
  | .isADirectory => "IsADirectory"
  | .notADirectory => "NotADirectory"
  | .alreadyExists => "AlreadyExists"
  | .resourceBusy => "ResourceBusy"
  | .invalidData => "InvalidData"
  | .noFileName => "InvalidInput"
  | .endMarkInPath => "InvalidInput"

/-- The wording of a fault. -/
def DiskFault.message : DiskFault → String
  | .notFound => "No such file or directory (os error 2)"
  | .isADirectory => "Is a directory (os error 21)"
  | .notADirectory => "Not a directory (os error 20)"
  | .alreadyExists => "File exists (os error 17)"
  | .resourceBusy => "Device or resource busy (os error 16)"
  | .invalidData => "stream did not contain valid UTF-8"
  | .noFileName => "invalid path for atomic write"
  | .endMarkInPath => "file name contained an unexpected NUL byte"

/-- A place on a disk: the names that lead to it from the root. -/
abbrev Place := List String

/-- What is at a place. -/
inductive DiskEntry where
  | file (content : ByteArray)
  | directory

/-- **A disk**: what is at each place that has something, each place once, and the
working directory. The root is a directory without being listed. -/
structure Disk where
  entries : List (Place × DiskEntry)
  workingDirectory : Place

namespace Disk

/-- What is at a place. -/
def entry? (d : Disk) (place : Place) : Option DiskEntry :=
  if place = [] then some .directory
  else (d.entries.find? fun e => e.1 == place).map (·.2)

/-- A disk with something else at a place. -/
def put (d : Disk) (place : Place) (entry : DiskEntry) : Disk :=
  { d with entries := d.entries.filter (fun e => e.1 != place) ++ [(place, entry)] }

/-- A disk with nothing at a place. -/
def remove (d : Disk) (place : Place) : Disk :=
  { d with entries := d.entries.filter fun e => e.1 != place }

/-! ### Following paths -/

/-- One part of a path followed, from a place that must be a directory. -/
def step (d : Disk) (place : Place) (part : String) : Except DiskFault Place :=
  match d.entry? place with
  | none => .error .notFound
  | some (.file _) => .error .notADirectory
  | some .directory =>
    if Path.isSilent part then .ok place
    else if part = ".." then .ok place.dropLast
    else .ok (place ++ [part])

/-- Where a path starts. -/
def origin (d : Disk) (path : String) : Place :=
  if Path.isAbsolute path then [] else d.workingDirectory

/-- **The place that parts of a path lead to.** -/
def walk (d : Disk) (place : Place) (parts : List String) : Except DiskFault Place :=
  parts.foldlM d.step place

/-- A path can be followed at all: it is not empty and holds no end mark. -/
def checkPath (path : String) : Except DiskFault Unit :=
  if path.toList.contains '\x00' then .error .endMarkInPath
  else if path = "" then .error .notFound
  else .ok ()

/-- **What a path leads to**, with its place. -/
def find (d : Disk) (path : String) : Except DiskFault (Place × DiskEntry) := do
  checkPath path
  let place ← d.walk (d.origin path) (Path.segments path)
  match d.entry? place with
  | some entry => .ok (place, entry)
  | none => .error .notFound

/-- The path leads to a directory. -/
def isDirectory (d : Disk) (path : String) : Bool :=
  match d.find path with
  | .ok (_, .directory) => true
  | _ => false

/-- The path leads to a file. -/
def isFile (d : Disk) (path : String) : Bool :=
  match d.find path with
  | .ok (_, .file _) => true
  | _ => false

/-- The text of a file. -/
def readText (d : Disk) (path : String) : Except DiskFault String := do
  match ← d.find path with
  | (_, .directory) => .error .isADirectory
  | (_, .file content) =>
    match String.fromUTF8? content with
    | some text => .ok text
    | none => .error .invalidData

/-! ### Where something can be made -/

/-- What the last part of a path says about a place to be made. -/
inductive Target where
  /-- A name in a directory, and whether a slash follows it. -/
  | named (place : Place) (slash : Bool)
  /-- No name, but a place that exists as soon as the path can be followed. -/
  | dots

/-- The parts of a path without the slashes at its end, and whether there were any. -/
def splitEnd (path : String) : List String × Bool :=
  let parts := Path.segments path
  let kept := (parts.reverse.dropWhile fun part => part = "").reverse
  (kept, kept.length ≠ parts.length)

/-- **The place that a path would make**, in a directory that must exist. -/
def target (d : Disk) (path : String) : Except DiskFault Target := do
  checkPath path
  let (parts, slash) := splitEnd path
  let place ← d.walk (d.origin path) parts.dropLast
  match parts.getLast? with
  | none => .ok .dots
  | some name =>
    let made ← d.step place name
    if name = "." || name = ".." then .ok .dots else .ok (.named made slash)

/-- The place that a path leads a new file to. -/
def fileTarget (d : Disk) (path : String) : Except DiskFault Place := do
  match ← d.target path with
  | .dots => .error .isADirectory
  | .named place slash =>
    if slash then .error .isADirectory
    else
      match d.entry? place with
      | some .directory => .error .isADirectory
      | _ => .ok place

/-! ### Listing -/

/-- The part of a place below another one. -/
def below? (base place : Place) : Option Place :=
  if base.isPrefixOf place && base.length < place.length then some (place.drop base.length)
  else none

/-- Nothing is in the directory at a place. -/
def isEmptyDirectory (d : Disk) (place : Place) : Bool :=
  d.entries.all fun e => (below? place e.1).isNone

/-- **The files and the empty directories below the working directory**, by their paths
from there, in the order of the paths. -/
def listing (d : Disk) : List (String × DiskEntry) :=
  let shown := d.entries.filterMap fun (place, entry) => do
    let path ← below? d.workingDirectory place
    match entry with
    | .file _ => some (Path.ofSegments path, entry)
    | .directory => if d.isEmptyDirectory place then some (Path.ofSegments path, entry) else none
  shown.mergeSort fun a b => a.1 ≤ b.1

end Disk

end Blueprint
