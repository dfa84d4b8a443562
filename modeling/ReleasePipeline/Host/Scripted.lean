/-
Programs that follow a script, for trying a run out without starting anything.

The programs of a host are a function (`Programs`), and what is proved of runs holds for every such
function. The ones here are those with which runs are tried out: `go`, `upx`, `git` and the rest are
each a file in the tree with a list of rules. A call takes the first rule whose text occurs in the
call, and does what the rule says, such as writing the file after `-o`; without such a rule it does
nothing and ends well. Programs are looked up as the system does it: along `PATH`, or at their place
if they are named by a path.
-/
import ReleasePipeline.Host

set_option autoImplicit false

namespace ReleasePipeline

/-- What a call does. -/
structure ScriptRule where
  /-- The rule is for calls in which this text occurs. -/
  pattern : String := ""
  stderr : ByteArray := .empty
  stdout : ByteArray := .empty
  /-- Is written to the file that the output option names. -/
  output : Option ByteArray := none
  /-- Files to write, in order. -/
  files : List (Path × ByteArray) := []
  status : ExitStatus := .exited 0

/-- A program: where it is, and its rules. -/
structure Script where
  place : Place
  rules : List ScriptRule

namespace Script

/-! ## Calls -/

/-- The value that the surrounding process gives to a variable. -/
def processValue? (process : List Setup.ProcessVariable) (name : String) : Option String :=
  (process.find? fun row => row.1 == Text.encode name).map fun row => Text.decodeLossy row.2

/-- What follows a beginning of a text, if the text has it. -/
def after? : List Char → List Char → Option (List Char)
  | [], cs => some cs
  | a :: beginning, c :: cs => if a = c then after? beginning cs else none
  | _ :: _, [] => none

/-- A program is handed its variables as texts, each a name, an equals sign and a value. So a
name that holds an equals sign is read there as a shorter name, and the rest as a part of the
value. -/
def readAs? (name : String) (row : String × String) : Option String :=
  (after? (name.toList ++ ['=']) row.1.toList).map fun rest =>
    String.ofList rest ++ "=" ++ row.2

/-- The value of a variable in a call: its own, or else that of the surrounding process, or else
one that is read as such. -/
def variableIn (process : List Setup.ProcessVariable) (c : Command) (name : String) :
    Option String :=
  (c.environment.get? name).or
    ((processValue? process name).or (c.environment.toList.findSome? (readAs? name)))

/-- The text of a call that rules look at. -/
def callText (process : List Setup.ProcessVariable) (c : Command) : String :=
  let value (name : String) : String := (variableIn process c name).getD ""
  value "GOOS" ++ "-" ++ value "GOARCH" ++ value "GOARM" ++ " " ++ " ".intercalate c.arguments

/-- The file that the output option names. -/
def outputFile? : List String → Option Path
  | "-o" :: file :: _ => some ⟨file⟩
  | _ :: rest => outputFile? rest
  | [] => none

/-- Writes a file if that is possible. -/
def writeIfPossible (fs : Files) (p : Path) (b : ByteArray) : Files :=
  match fs.write p (.bytes b) with
  | .ok fs => fs
  | .error _ => fs

/-- Does what a rule says. -/
def follow (r : ScriptRule) (c : Command) (fs : Files) : ProgramResult :=
  let fs := match r.output, outputFile? c.arguments with
    | some b, some p => writeIfPossible fs p b
    | _, _ => fs
  { status := r.status
    stdout := r.stdout
    stderr := r.stderr
    files := r.files.foldl (fun fs (p, b) => writeIfPossible fs p b) fs }

/-- Calls a program. -/
def call (s : Script) (process : List Setup.ProcessVariable) (c : Command) (fs : Files) :
    ProgramResult :=
  let text := (callText process c).toList
  match s.rules.find? fun r => Text.occurs r.pattern.toList text with
  | some r => follow r c fs
  | none => { status := .exited 0, files := fs }

/-! ## Looking programs up -/

/-- The program at a path. What is there and is no program must not be started. -/
def atPath (scripts : List Script) (fs : Files) (p : Path) : Except IoError Script := do
  let (place, node) ← fs.find p
  match node, scripts.find? (·.place = place) with
  | .file _, some s => .ok s
  | _, _ => .error .permissionDenied

/-- The errors that do not end a search. -/
def passesOver : IoError → Bool
  | .notFound | .permissionDenied | .notADirectory => true
  | _ => false

/-- As much of the name of a program as is looked for in a directory: no directory can hold a
longer name, whatever its end. -/
def searchedName (program : String) : String :=
  String.ofList (program.toList.take (Files.maxNameBytes + 1))

/-- The program in the first of some directories that has it; `error` is reported if none
has. Something that must not be started is passed over, but remembered. -/
def search (scripts : List Script) (fs : Files) (program : String) (error : IoError) :
    List Path → Except IoError Script
  | [] => .error error
  | directory :: rest =>
    match atPath scripts fs (directory.child (searchedName program)) with
    | .ok s => .ok s
    | .error e =>
      if passesOver e then
        search scripts fs program (if error = .permissionDenied then error else e) rest
      else .error e

/-- The directories of a search path; an empty one is the working directory. -/
def searchDirectories (text : String) : List Path :=
  (Text.splitOn ':' text.toList).map fun d => if d.isEmpty then ⟨"."⟩ else ⟨String.ofList d⟩

/-- Looks up the program of a call. -/
def lookup (scripts : List Script) (process : List Setup.ProcessVariable) (c : Command)
    (fs : Files) : Except IoError Script :=
  if c.program = "" then .error .notFound
  else if c.program.toList.contains '/' then atPath scripts fs ⟨c.program⟩
  else
    search scripts fs c.program .notFound
      (searchDirectories
        (((c.environment.get? "PATH").or (processValue? process "PATH")).getD "/bin:/usr/bin"))

/-- The longest argument that a program can be given, in bytes. -/
def maxArgumentBytes : Nat := 131071

/-- Some argument or variable is too long to be handed over. -/
def overlong (c : Command) : Bool :=
  (c.program :: c.arguments).any (maxArgumentBytes < ·.utf8ByteSize)
    || c.environment.toList.any fun (name, value) =>
      maxArgumentBytes < name.utf8ByteSize + 1 + value.utf8ByteSize

/-- Starts one of some programs. -/
def start (scripts : List Script) (process : List Setup.ProcessVariable) (c : Command)
    (fs : Files) : Except IoError ProgramResult := do
  let s ← lookup scripts process c fs
  if overlong c then .error .argumentsTooLong else .ok (s.call process c fs)

/-- The programs of some scripts. -/
def programs (scripts : List Script) (process : List Setup.ProcessVariable) : Programs :=
  fun _ => start scripts process

end Script

end ReleasePipeline
