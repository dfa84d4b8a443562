/-
Names of entries in tar archives.

The header of an entry has a hundred bytes for its name, and holds only names that stay
below the directory they are unpacked into. There the name is spelled without idle steps:
no repeated slashes, and no single dot unless it is all there is. A name that the header
has no room for is put in front of it as it is.
-/
import ReleasePipeline.Path

set_option autoImplicit false

namespace ReleasePipeline.Archive

/-- Why an entry cannot have its name. -/
inductive EntryNameFault where
  | absolute
  | climbs
  | empty
  | holdsNul
  | tooLong
  deriving DecidableEq, Repr

/-- The wording of the fault. -/
def EntryNameFault.message : EntryNameFault → String
  | .absolute => "paths in archives must be relative"
  | .climbs => "paths in archives must not have `..`"
  | .empty => "paths in archives must have at least one component"
  | .holdsNul => "provided value contains a nul byte"
  | .tooLong => "provided value is too long"

/-- A fault, and as much of the name as was written before it. -/
structure EntryNameError where
  fault : EntryNameFault
  written : String
  deriving DecidableEq, Repr

/-- The wording of the error. -/
def EntryNameError.message (e : EntryNameError) : String :=
  e.fault.message ++ " when setting path for " ++ e.written

/-- The number of bytes that a header has for a name. -/
def headerRoom : Nat := 100

/-- Writes the steps of a name after what is written already. A climb is let pass at the end
if `lastMayClimb`. -/
def writeParts (lastMayClimb : Bool) (written : List Char) :
    List Path.Part → Except EntryNameError (List Char)
  | [] => .ok written
  | .root :: _ => .error ⟨.absolute, String.ofList written⟩
  | .up :: rest =>
    -- a step that was cut off cannot be told from a climb
    if lastMayClimb && rest.isEmpty then writeName ['.', '.'] rest
    else .error ⟨.climbs, String.ofList written⟩
  | .here :: rest =>
    if rest.isEmpty then writeName ['.'] rest else writeParts lastMayClimb written rest
  | .name cs :: rest => writeName cs rest
where
  /-- Writes one step and those after it. -/
  writeName (cs : List Char) (rest : List Path.Part) : Except EntryNameError (List Char) :=
    let slash := if written.isEmpty then [] else ['/']
    if cs.contains '\x00' then .error ⟨.holdsNul, String.ofList (written ++ slash)⟩
    else writeParts lastMayClimb (written ++ slash ++ cs) rest

/-- The spelling of a name in a header. -/
def headerName (lastMayClimb : Bool) (name : String) : Except EntryNameError String := do
  let parts := Path.parts ⟨name⟩
  let written ← writeParts lastMayClimb [] parts
  if parts.isEmpty then .error ⟨.empty, ""⟩
  else
    let spelled := String.ofList (if Path.endsInSlash ⟨name⟩ then written ++ ['/'] else written)
    if headerRoom < spelled.utf8ByteSize then .error ⟨.tooLong, spelled⟩ else .ok spelled

/-- The longest beginning of a text that fits into a number of bytes. -/
def firstBytes : Nat → List Char → List Char
  | _, [] => []
  | room, c :: cs => if c.utf8Size ≤ room then c :: firstBytes (room - c.utf8Size) cs else []

/-- The name that an entry gets. -/
def entryName (name : String) : Except EntryNameError String :=
  match headerName false name with
  | .ok spelled => .ok spelled
  | .error e =>
    -- the header has room for the name, so there is no other way to write it
    if name.utf8ByteSize < headerRoom then .error e
    else do
      -- a member of its own holds the whole name, and the header its beginning
      let _ ← headerName true (String.ofList (firstBytes headerRoom name.toList))
      .ok name

end ReleasePipeline.Archive
