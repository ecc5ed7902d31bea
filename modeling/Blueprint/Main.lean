import Blueprint.Command.Paths
import Blueprint.Template.Expand

/-!
# The program

Commands are functions of a disk (`Command.Invocation.run`). This module makes a model of
the real disk that knows every place the command looks at, runs the command on it, and
carries the changes back. All that is decided here is how that is done.
-/

namespace Blueprint

namespace Program

/-! ### From the disk to its model -/

/-- The path of a place. -/
def absolutePath (place : Place) : String := "/" ++ Path.ofSegments place

/-- What is at a place. A file that can be opened but not read is a directory. -/
def probe (place : Place) : IO (Option DiskEntry) := do
  try
    return some (.file (← IO.FS.readBinFile (absolutePath place)))
  catch error =>
    match error with
    | .noFileOrDirectory .. => return none
    | .inappropriateType .. => return some .directory
    | error => throw error

/-- The model with what is at a place, and whether that is a directory. -/
def learnPlace (d : Disk) (place : Place) : IO (Disk × Bool) := do
  match d.entry? place with
  | some .directory => return (d, true)
  | some (.file _) => return (d, false)
  | none =>
    match ← probe place with
    | none => return (d, false)
    | some .directory => return (d.put place .directory, true)
    | some entry => return (d.put place entry, false)

/-- The model with what is on the way that some parts lead. -/
def learnParts (d : Disk) (place : Place) : List String → IO Disk
  | [] => return d
  | part :: parts =>
    if Path.isSilent part then learnParts d place parts
    else if part = ".." then learnParts d place.dropLast parts
    else do
      let place := place ++ [part]
      match ← learnPlace d place with
      | (d, true) => learnParts d place parts
      | (d, false) => return d

/-- The model with what is on the way of a path. -/
def learnPath (d : Disk) (path : String) : IO Disk :=
  if path.toList.contains '\x00' then return d
  else learnParts d (d.origin path) (Path.segments path)

/-- A model that knows the working directory and nothing else. -/
def emptyModel : IO Disk := do
  let place := (Path.segments (toString (← IO.currentDir))).filter fun part => part != ""
  let above := (List.range place.length).map fun n => (place.take (n + 1), DiskEntry.directory)
  return ⟨above, place⟩

/-- The model with all that an invocation looks at. What it finds may make it look
further. -/
partial def learn (i : Command.Invocation) (d : Disk) (known : List String) : IO Disk := do
  let wanted := (i.paths .plain Template.expandWith d).filter fun path => !known.contains path
  if wanted.isEmpty then return d
  learn i (← wanted.foldlM learnPath d) (known ++ wanted)

/-! ### From the model to the disk -/

/-- Something put at a place. -/
def carryOut (place : Place) (entry : DiskEntry) : IO Unit := do
  let path := absolutePath place
  match entry with
  | .directory => IO.FS.createDirAll path
  | .file content =>
    let temporary := (Disk.temporaryPath? path).getD path
    IO.FS.writeBinFile temporary content
    IO.FS.rename temporary path

/-- The changes between two models made on the disk. -/
def carryOutAll (before after : Disk) : IO Unit := do
  for (place, entry) in Command.additions before after do carryOut place entry
  for place in Command.removals before after do IO.FS.removeFile (absolutePath place)

/-! ### Runs -/

/-- A byte as two hexadecimal digits. -/
def hexByte (b : UInt8) : List Char := [Json.hexDigit (b.toNat / 16), Json.hexDigit (b.toNat % 16)]

/-- A name that no other run has: random, in the form of such names. -/
def freshRunId : IO String := do
  let bytes := (← IO.getRandomBytes 16).toList
  let marked := bytes.mapIdx fun i b =>
    if i = 6 then b % 16 + 0x40 else if i = 8 then b % 64 + 0x80 else b
  let part (start count : Nat) : String :=
    String.ofList (((marked.drop start).take count).flatMap hexByte)
  return String.intercalate "-" [part 0 4, part 4 2, part 6 2, part 8 2, part 10 6]

/-- The time when the machine was started, in seconds. -/
def bootSeconds : IO Nat := do
  let stat ← IO.FS.readFile "/proc/stat"
  let seconds := (stat.splitOn "\n").findSome? fun line =>
    match line.splitOn " " with
    | ["btime", seconds] => readNatural? 10 seconds.toList
    | _ => none
  return seconds.getD 0

/-- The time now, or the start of all counting where it cannot be told. -/
def now : IO Timestamp := do
  try
    return (Timestamp.ofMilliseconds? ((← bootSeconds) * 1000 + (← IO.monoMsNow))).getD .epoch
  catch _ => return .epoch

/-- A command run on the disk. -/
def runCommand (i : Command.Invocation) : IO UInt32 := do
  let before ← learn i (← emptyModel) []
  let runId ← freshRunId
  let outcome := i.run Template.expandWith runId before
  carryOutAll before (outcome.withLog i.logFile runId (← now))
  IO.print outcome.text
  match outcome.failure with
  | some failure => IO.eprintln (Command.complaint .plain i.action failure)
  | none => pure ()
  return UInt32.ofNat outcome.status

end Program

end Blueprint

open Blueprint

/-- **The program.** -/
def main (arguments : List String) : IO UInt32 := do
  match Command.answer arguments with
  | .text value =>
    IO.print value
    return 0
  | .misuse =>
    IO.eprintln Command.helpText
    return 2
  | .command invocation => Program.runCommand invocation
