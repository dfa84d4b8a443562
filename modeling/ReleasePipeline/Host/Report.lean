/-
What a run tells its user: log events, and what the programs it starts write.
-/

set_option autoImplicit false

namespace ReleasePipeline

/-- How important a log event is. -/
inductive LogLevel where
  | error
  | warn
  | info
  deriving DecidableEq, Inhabited, Repr

/-- The word for the level. -/
def LogLevel.name : LogLevel → String
  | .error => "ERROR"
  | .warn => "WARN"
  | .info => "INFO"

/-- Events of the level are shown when those up to `most` are. -/
def LogLevel.shownUpTo (level most : LogLevel) : Bool :=
  let rank : LogLevel → Nat := fun
    | .error => 0
    | .warn => 1
    | .info => 2
  rank level ≤ rank most

/-- A log event. -/
structure LogEvent where
  level : LogLevel
  /-- The part of the program that speaks. -/
  source : String
  message : String
  /-- Names and values that belong to the message. -/
  fields : List (String × String) := []
  deriving DecidableEq, Inhabited

/-- The controls that could command a terminal and have two digits of their own in a log line:
escape, bell, backspace, form feed and delete. -/
def terminalControls : List (Char × String) :=
  [('\x1b', "\\x1b"), ('\x07', "\\x07"), ('\x08', "\\x08"), ('\x0c', "\\x0c"), ('\x7f', "\\x7f")]

/-- How a character of a message is written, so that it commands no terminal. -/
def harmlessChar (c : Char) : List Char :=
  match terminalControls.lookup c with
  | some escape => escape.toList
  | none =>
    if 0x80 ≤ c.toNat && c.toNat ≤ 0x9f then
      ['\\', 'u', '{'] ++ Nat.toDigits 16 c.toNat ++ ['}']
    else [c]

/-- A message that commands no terminal. -/
def harmless (s : String) : String := String.ofList (s.toList.flatMap harmlessChar)

/-- The event on a line of its own. The fields are shown as they are. -/
def LogEvent.line (e : LogEvent) : String :=
  e.level.name ++ " " ++ e.source ++ ": " ++ harmless e.message
    ++ String.join (e.fields.map fun (name, value) => " " ++ name ++ "=" ++ value)

/-- Something that the user gets to see. -/
inductive Output where
  | log (event : LogEvent)
  | stdout (bytes : ByteArray)
  | stderr (bytes : ByteArray)
  deriving Inhabited

namespace Output

/-- What goes to the standard output. -/
def toStdout : Output → ByteArray
  | .stdout b => b
  | _ => .empty

/-- What goes to the standard error output when log events up to a level are shown, each on a
line of its own. -/
def toStderr (most : LogLevel) : Output → ByteArray
  | .stderr b => b
  | .log e => if e.level.shownUpTo most then (e.line ++ "\n").toUTF8 else .empty
  | .stdout _ => .empty

/-- Several outputs as one stream. -/
def stream (view : Output → ByteArray) (outputs : List Output) : ByteArray :=
  outputs.foldl (fun b o => b ++ view o) .empty

end Output

end ReleasePipeline
