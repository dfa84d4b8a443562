/-
The host: everything a run touches besides its context.

Files, programs and the server are part of one state, and so is the record of what was
done with them: the commands started, the requests sent, and the output, in order. What an
action did before it failed stays done.
-/
import ReleasePipeline.Archive.Format
import ReleasePipeline.Context
import ReleasePipeline.Failure
import ReleasePipeline.Host.Exchange
import ReleasePipeline.Host.Report
import ReleasePipeline.Setup.Capture
import ReleasePipeline.Text.Blank

set_option autoImplicit false

namespace ReleasePipeline

/-- What a run works on. -/
structure Host where
  files : Files := {}
  /-- The variables of the surrounding process. -/
  processVariables : List Setup.ProcessVariable := []
  programs : Programs := fun _ _ _ => .error .notFound
  server : Server := fun _ _ => none
  /-- The commands that were started, in order. -/
  commands : List Command := []
  /-- The requests that were sent, in order. -/
  requests : List Request := []
  /-- What the user got to see, in order. -/
  outputs : List Output := []
  deriving Inhabited

/-- Actions on the host that may fail. -/
abbrev HostM := ExceptT Failure (StateM Host)

namespace Host

/-- The log events among the output. -/
def log (h : Host) : List LogEvent :=
  h.outputs.filterMap fun
    | .log e => some e
    | _ => none

/-- The host after some more output. -/
def say (h : Host) (o : Output) : Host := { h with outputs := h.outputs ++ [o] }

/-- The host after some events. -/
def sayAll (h : Host) (events : List LogEvent) : Host :=
  { h with outputs := h.outputs ++ events.map .log }

/-- The name of the working directory, which the root has none of. -/
def directoryName (h : Host) : String := h.files.workingPath.fileName?.getD "."

end Host

namespace HostM

/-! ## Failing and explaining -/

/-- Fails. -/
def fail {α : Type} (cause : Cause) : HostM α := throw (.because cause)

/-- Names what is being done, for the case that it fails. -/
def during {α : Type} (activity : Activity) (action : HostM α) : HostM α :=
  tryCatch action fun f => throw (.during activity f)

/-- Takes over the outcome of a pure step. -/
def lift {ε α : Type} (cause : ε → Cause) : Except ε α → HostM α
  | .ok a => pure a
  | .error e => fail (cause e)

/-- Takes over the outcome of a pure step that explains its failures itself. -/
def ofExcept {α : Type} : Except Failure α → HostM α
  | .ok a => pure a
  | .error f => throw f

/-- Logs an event. -/
def log (e : LogEvent) : HostM Unit := modify (·.say (.log e))

/-- Logs what is good to know. -/
def info (source message : String) : HostM Unit := log { level := .info, source, message }

/-- Logs what may be wrong. -/
def warn (source message : String) (fields : List (String × String)) : HostM Unit :=
  log { level := .warn, source, message, fields }

/-! ## Files -/

/-- Reads the file system without changing it. -/
def query {α : Type} (question : Files → Except IoError α) : HostM α := do
  lift .io (question (← get).files)

/-- Changes the files, unless the change is refused. -/
def change (step : Files → Except IoError Files) : HostM Unit := do
  let files ← query step
  modify fun h => { h with files }

/-- Creates a directory and those above it. -/
def createDirectories (p : Path) : HostM Unit := do
  match (← get).files.createDirectories p with
  | .ok files => modify fun h => { h with files }
  | .error (files, e) =>
    -- the directories that could be created stay
    modify fun h => { h with files }
    fail (.io e)

/-- Creates the directory that a file is to be put in; `activity` names what is being done. -/
def createParentDuring (activity : Path → Activity) (p : Path) : HostM Unit := do
  match p.parent? with
  | none => pure ()
  | some parent =>
    if parent.text = "" then pure ()
    else during (activity parent) (createDirectories parent)

/-- Creates the directory that a file is to be put in. -/
def createParent (p : Path) : HostM Unit := createParentDuring .creatingDirectory p

/-- Reads a text file. -/
def readText (p : Path) : HostM String := do
  let content ← query (·.read p)
  match Text.decode? content.toBytes with
  | some s => pure s
  | none => fail (.io .notText)

/-! ## Programs -/

/-- Starts a program and waits for its end. -/
def startProgram (c : Command) : HostM ProgramResult := do
  let h ← get
  let outcome := if c.holdsNul then .error .nulInCommand else h.programs h.commands c h.files
  match outcome with
  | .error e => during (.starting c.program) (fail (.io e))
  | .ok result =>
    set { h with files := result.files, commands := h.commands ++ [c] }
    pure result

/-- Runs a program that writes where its user can see it; it has to end well. -/
def runProgram (c : Command) : HostM Unit := do
  let result ← startProgram c
  modify fun h => (h.say (.stdout result.stdout)).say (.stderr result.stderr)
  if result.status.isSuccess then pure () else fail (.exited c.program result.status)

/-- Runs a program for what it writes, without the blanks around it; it has to end well. -/
def captureProgram (c : Command) : HostM String := do
  let result ← startProgram c
  if result.status.isSuccess then pure (Text.trim (Text.decodeLossy result.stdout))
  else
    fail (.exitedSaying c.program result.status (Text.trim (Text.decodeLossy result.stderr)))

end HostM

end ReleasePipeline
