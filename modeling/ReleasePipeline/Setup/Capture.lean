/-
Capturing the variables of the surrounding process.

Variables that are there already stay. Names and values that are not UTF-8 are read
leniently, and of several that then have one name the first counts. The directory
for configuration files is derived from the home directory when nothing sets it.
-/
import ReleasePipeline.Environment
import ReleasePipeline.Path
import ReleasePipeline.Text.Utf8

set_option autoImplicit false

namespace ReleasePipeline.Setup

/-- A variable of the surrounding process: name and value as bytes. -/
abbrev ProcessVariable := ByteArray × ByteArray

/-- Names the directory for configuration files. -/
def configHome : String := "XDG_CONFIG_HOME"

/-- The variables that may name the home directory, the preferred one first. -/
def homeVariables : List String := ["HOME", "HOMEPATH"]

/-- The home directory, if a variable names it. -/
def home? (env : Environment) : Option String := homeVariables.findSome? env.get?

/-- The directory for configuration files under a home directory. -/
def configUnder (home : String) : String := (Path.join ⟨home⟩ ⟨".config"⟩).text

/-- Sets the directory for configuration files unless it is set or no home directory
is known. -/
def deriveConfigHome (env : Environment) : Environment :=
  if env.has configHome then env
  else match home? env with
    | some home => env.set configHome (configUnder home)
    | none => env

/-- Loads the variables of the surrounding process. -/
def capture (env : Environment) (process : List ProcessVariable) : Environment :=
  deriveConfigHome <| env.load <|
    process.map fun (name, value) => (Text.decodeLossy name, Text.decodeLossy value)

end ReleasePipeline.Setup
