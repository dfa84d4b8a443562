/-
The program as it is started.

The files below the working directory are taken in, the command line is carried out on them, and
what has changed is written back. Programs are not started from here: to this host none is
installed, and no server can be reached.

This is the only part that acts on the world. Everything that is decided is decided by
`CommandLine.run`, a function of the words, the time and the host that was taken in.
-/
import ReleasePipeline.CommandLine
import ReleasePipeline.Timestamp

set_option autoImplicit false

namespace ReleasePipeline.Main

/-- How deep directories are looked into. -/
def maxDepth : Nat := 64

/-- Takes in what a directory holds. -/
def readTree : Nat → Place → String → IO (List (Place × FileNode))
  | 0, _, _ => pure []
  | depth + 1, place, path => do
    let entries ← (← IO.FS.realPath path).readDir
    let mut nodes := []
    for entry in entries do
      let name := entry.fileName
      let below := path ++ "/" ++ name
      if ← entry.path.isDir then
        nodes := nodes ++ (name :: place, .directory) :: (← readTree depth (name :: place) below)
      else
        nodes := nodes ++ [(name :: place, .file (.bytes (← IO.FS.readBinFile below)))]
    return nodes

/-- The directories on the way to a place. -/
def waysTo : Place → List (Place × FileNode)
  | [] => []
  | name :: above => waysTo above ++ [(name :: above, .directory)]

/-- Takes in the files below the working directory. -/
def readFiles : IO Files := do
  let here := toString (← IO.FS.realPath ".")
  let place := (here.splitOn "/").filter (· ≠ "") |>.reverse
  return { nodes := waysTo place ++ (← readTree maxDepth place "."), workingDirectory := place }

/-- Splits bytes at a byte. -/
def splitBytes (mark : UInt8) (bytes : List UInt8) : List ByteArray :=
  (Text.splitOn mark bytes).map fun part => ⟨part.toArray⟩

/-- The variables of the process. -/
def readVariables : IO (List Setup.ProcessVariable) := do
  let bytes ← IO.FS.readBinFile "/proc/self/environ"
  return (splitBytes 0 bytes.toList).filterMap fun row =>
    (Text.splitOnce? (61 : UInt8) row.toList).map fun (name, value) =>
      (⟨name.toArray⟩, ⟨value.toArray⟩)

/-- The time of day. -/
def readClock : IO String := do
  let modified := (← (← IO.FS.realPath "/proc/self").metadata).modified
  return timestamp modified.sec.toNat modified.nsec.toNat

/-- The path of a place. -/
def pathOf (place : Place) : String := "/" ++ "/".intercalate place.reverse

/-- Writes back one thing unless it was there already. -/
def writeNode (before : Files) (place : Place) (node : FileNode) : IO Unit := do
  match node, before.node? place with
  | .directory, some .directory => pure ()
  | .directory, _ => IO.FS.createDirAll (pathOf place)
  | .file new, some (.file old) =>
    if new.toBytes == old.toBytes then pure () else IO.FS.writeBinFile (pathOf place) new.toBytes
  | .file new, _ => IO.FS.writeBinFile (pathOf place) new.toBytes

/-- Writes back what has changed. -/
def writeFiles (before after : Files) : IO Unit := do
  for (place, node) in before.nodes do
    match node, after.node? place with
    | .file _, none => IO.FS.removeFile (pathOf place)
    | _, _ => pure ()
  for (place, node) in after.nodes do
    writeNode before place node

/-- Shows what was said, in order. -/
def show_ (most : LogLevel) : List Output → IO Unit
  | [] => pure ()
  | o :: rest => do
    (← IO.getStdout).write o.toStdout
    (← IO.getStderr).write (o.toStderr most)
    show_ most rest

end ReleasePipeline.Main

open ReleasePipeline in
/-- Carries out the command line. -/
def main (words : List String) : IO UInt32 := do
  let files ← Main.readFiles
  let host : Host := { files, processVariables := ← Main.readVariables }
  let ending := CommandLine.run words (← Main.readClock) host
  Main.writeFiles files ending.host.files
  Main.show_ .info ending.host.outputs
  return UInt32.ofNat ending.exitCode
