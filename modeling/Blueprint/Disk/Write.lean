import Blueprint.Disk

/-!
# Writing to disks

Directories are made together with the directories they are in
(`Disk.createDirectories`), and a file is written under a temporary name beside its own
and then moved into place (`Disk.writeAtomic`), so that nobody ever sees a file half
written.

An operation of several steps may fail after some of them. It then leaves what those
steps did, so it gives a disk in any case, and a fault beside it if there is one.

That the storage below a disk is told to keep what was written is no step here, since a disk is
only what can be found at its paths.
-/

namespace Blueprint

namespace Disk

/-! ### Directories -/

/-- One directory made in a directory that exists. -/
def createDirectory (d : Disk) (path : String) : Except DiskFault Disk := do
  match ← d.target path with
  | .dots => .error .alreadyExists
  | .named place _ =>
    match d.entry? place with
    | some _ => .error .alreadyExists
    | none => .ok (d.put place .directory)

/-- Paths tried from the longest one on, until one can be made or is a directory: the
disk then, and the longer paths, shortest first. -/
def climb (d : Disk) : List String → List String → Except DiskFault (Disk × List String)
  | [], missing => .ok (d, missing)
  | path :: shorter, missing =>
    match d.createDirectory path with
    | .ok made => .ok (made, missing)
    | .error .notFound => climb d shorter (path :: missing)
    | .error fault =>
      if fault = .alreadyExists && d.isDirectory path then .ok (d, missing) else .error fault

/-- Paths made one after another, where one that is a directory already is passed over. -/
def descend (d : Disk) : List String → Disk × Option DiskFault
  | [] => (d, none)
  | path :: longer =>
    match d.createDirectory path with
    | .ok made => descend made longer
    | .error fault =>
      if fault = .alreadyExists && d.isDirectory path then descend d longer else (d, some fault)

/-- **A directory made, with those it is in.** -/
def createDirectories (d : Disk) (path : String) : Disk × Option DiskFault :=
  match d.climb (Path.ancestors path) [] with
  | .error fault => (d, some fault)
  | .ok (reached, missing) => reached.descend missing

/-! ### Files -/

/-- A file made or replaced in a directory that exists. -/
def writeFile (d : Disk) (path : String) (content : ByteArray) : Except DiskFault Disk := do
  let place ← d.fileTarget path
  return d.put place (.file content)

/-- Something added at the end of a file, which is made if it does not exist. -/
def appendFile (d : Disk) (path : String) (content : ByteArray) : Except DiskFault Disk := do
  let place ← d.fileTarget path
  match d.entry? place with
  | some (.file before) => return d.put place (.file (before ++ content))
  | _ => return d.put place (.file content)

/-- A file moved to another path, where it replaces a file. -/
def moveFile (d : Disk) (source path : String) : Except DiskFault Disk := do
  let destination ← d.target path
  let (old, entry) ← d.find source
  match destination with
  | .dots => .error .resourceBusy
  | .named place slash =>
    if slash then .error .notADirectory
    else
      match d.entry? place with
      | some .directory => .error .isADirectory
      | _ => .ok ((d.remove old).put place entry)

/-- The name that a file has while it is written. -/
def temporaryName (name : String) : String := name ++ ".tmp"

/-- **The temporary path of a file**, beside the file. -/
def temporaryPath? (path : String) : Option String :=
  (Path.fileName? path).map fun name => Path.sibling path (temporaryName name)

/-- The directories of a file made. -/
def createParents (d : Disk) (path : String) : Disk × Option DiskFault :=
  match Path.parent? path with
  | none => (d, none)
  | some parent => if parent = "" then (d, none) else d.createDirectories parent

/-- The temporary file written and moved, in directories that exist. -/
def replaceFile (d : Disk) (path : String) (content : ByteArray) : Disk × Option DiskFault :=
  match temporaryPath? path with
  | none => (d, some .noFileName)
  | some temporary =>
    match d.writeFile temporary content with
    | .error fault => (d, some fault)
    | .ok written =>
      match written.moveFile temporary path with
      | .error fault => (written, some fault)
      | .ok moved => (moved, none)

/-- **A file written as a whole**: its directories are made, its content goes to a
temporary file, and that file is moved into place.

The program also syncs the temporary file before it is moved, and the directory, for which it
opens the directory again, before and after the move. Neither is a step here. A sync changes
nothing that a disk says, and on a tree of files and directories it does not fail: the temporary
file is open, and the directory is there, since a file was written in it and nothing has removed
it. A device that breaks is no part of a disk. -/
def writeAtomic (d : Disk) (path : String) (content : ByteArray) : Disk × Option DiskFault :=
  match d.createParents path with
  | (reached, some fault) => (reached, some fault)
  | (reached, none) => reached.replaceFile path content

/-! ### Disks to start from -/

/-- A directory with nothing in it, as the working directory of a disk with nothing
else. -/
def blank : Disk := ⟨[(["work"], .directory)], ["work"]⟩

/-- Something put on a disk for a start, with the directories it is in. -/
def install (d : Disk) (path : String) (entry : DiskEntry) : Disk :=
  match entry with
  | .directory => (d.createDirectories path).1
  | .file content =>
    let reached := (d.createParents path).1
    match reached.writeFile path content with
    | .ok written => written
    | .error _ => reached

end Disk

end Blueprint
