/-
Programs that a run starts, and how they end.
-/
import ReleasePipeline.Environment
import ReleasePipeline.Files
import ReleasePipeline.Text.Quoted

set_option autoImplicit false

namespace ReleasePipeline

/-- A call of a program. -/
structure Command where
  program : String
  arguments : List String
  /-- The variables that are set on top of those of the surrounding process. -/
  environment : Environment := {}
  deriving DecidableEq, Inhabited

namespace Command

/-- A call in which a variable has one more value. -/
def withVariable (c : Command) (name value : String) : Command :=
  { c with environment := c.environment.set name value }

/-- The text holds the character that the system cannot pass on. -/
def hasNul (s : String) : Bool := s.toList.contains '\x00'

/-- Some part of the call holds a character that the system cannot pass on. -/
def holdsNul (c : Command) : Bool :=
  hasNul c.program || c.arguments.any hasNul
    || c.environment.toList.any fun (name, value) => hasNul name || hasNul value

/-- A program in a message. A name that no program can have is not spelled out. -/
def shownProgram (program : String) : String :=
  Text.quotedThroughout (if hasNul program then "<string-with-nul>" else program)

end Command

/-- How a program ended. -/
inductive ExitStatus where
  | exited (code : Nat)
  | killed (signal : Nat)
  deriving DecidableEq, Inhabited

namespace ExitStatus

/-- The program ended well. -/
def isSuccess : ExitStatus → Bool
  | .exited 0 => true
  | _ => false

/-- The names of the signals, from the first one on. -/
def signalNames : List String :=
  ["SIGHUP", "SIGINT", "SIGQUIT", "SIGILL", "SIGTRAP", "SIGABRT", "SIGBUS", "SIGFPE",
    "SIGKILL", "SIGUSR1", "SIGSEGV", "SIGUSR2", "SIGPIPE", "SIGALRM", "SIGTERM", "SIGSTKFLT",
    "SIGCHLD", "SIGCONT", "SIGSTOP", "SIGTSTP", "SIGTTIN", "SIGTTOU", "SIGURG", "SIGXCPU",
    "SIGXFSZ", "SIGVTALRM", "SIGPROF", "SIGWINCH", "SIGIO", "SIGPWR", "SIGSYS"]

/-- How the ending is described. -/
def message : ExitStatus → String
  | .exited code => "exit status: " ++ toString code
  | .killed signal =>
    "signal: " ++ toString signal ++
      (if signal = 0 then "" else match signalNames[signal - 1]? with
        | some name => " (" ++ name ++ ")"
        | none => "")

end ExitStatus

/-- What a program that was started did. -/
structure ProgramResult where
  status : ExitStatus
  stdout : ByteArray := .empty
  stderr : ByteArray := .empty
  /-- The files as the program left them. -/
  files : Files
  deriving Inhabited

/-- How programs behave: what a call does, after the calls before it and on the files as they
are, or why it cannot be started. -/
abbrev Programs := List Command → Command → Files → Except IoError ProgramResult

end ReleasePipeline
