/-
Modules, and the registry in which stages look them up.

A module is an action on the context of a run and the host. The registry maps the key of a
module to its constructor and the keys it depends on. A module registered for every stage
is found where none is registered for the stage itself.
-/
import ReleasePipeline.Host
import ReleasePipeline.ModuleKey
import ReleasePipeline.Settings

set_option autoImplicit false

namespace ReleasePipeline

/-! ## Modules -/

/-- What a module leaves behind, whether it fails or not. -/
structure ModuleOutcome where
  result : Except Failure Unit
  context : Context
  host : Host

/-- A unit of work. -/
structure Module where
  run : Context → Host → ModuleOutcome

/-- Actions on the context and the host that may fail; what was done before stays done. -/
abbrev RunM := ExceptT Failure (StateM (Context × Host))

namespace RunM

/-- Takes over an action on the host. -/
def host {α : Type} (action : HostM α) : RunM α := fun s =>
  let (r, h) := ExceptT.run action s.2
  (r, (s.1, h))

/-- The context as it is. -/
def context : RunM Context := do return (← get).1

/-- Changes the context. -/
def update (f : Context → Context) : RunM Unit := modify fun (c, h) => (f c, h)

end RunM

namespace Module

/-- A module that changes the context as it goes. -/
def ofSteps (action : RunM Unit) : Module where
  run ctx host :=
    let (result, ctx, host) := ExceptT.run action (ctx, host)
    { result, context := ctx, host }

/-- A module that looks at the context and leaves it alone. -/
def ofReading (action : Context → HostM Unit) : Module :=
  .ofSteps do RunM.host (action (← RunM.context))

end Module

/-! ## The registry -/

/-- Why a module cannot be made. -/
inductive RegistryError where
  | invalidKind (text : String)
  | decode (error : DecodeError)
  deriving DecidableEq, Inhabited

/-- The wording of the error. -/
def RegistryError.message : RegistryError → String
  | .invalidKind text => "invalid module kind: " ++ Text.quoted text
  | .decode e => e.message

/-- What is registered under a key. -/
structure Registration where
  /-- Makes a module from its parameters. -/
  create : Option Yaml.Entries → Except RegistryError Module
  /-- The modules that have to be part of the pipeline as well. -/
  dependencies : List ModuleKey := []

/-- The constructor of a module that is configured by a schema. -/
def Registration.ofSchema {σ : Type} (schema : Schema σ) (module : σ → Module)
    (dependencies : List ModuleKey := []) : Registration where
  create params := (schema.configure params).mapError .decode |>.map module
  dependencies

/-- Registrations by key. -/
structure Registry where
  entries : Table ModuleKey Registration := .empty
  deriving Inhabited

namespace Registry

/-- Adds a registration; it replaces an earlier one for the key. -/
def register (r : Registry) (stage kind : String) (registration : Registration) : Registry :=
  ⟨r.entries.insert ⟨stage, kind⟩ registration⟩

/-- The registration for a stage, or else for every stage, and the key that it has. -/
def lookup? (r : Registry) (stage kind : String) : Option (ModuleKey × Registration) :=
  [stage, ModuleKey.anyStage].findSome? fun s =>
    (r.entries.find? ⟨s, kind⟩).map fun registration => (⟨s, kind⟩, registration)

/-- What a module depends on; nothing for a key that is not registered. -/
def dependencies (r : Registry) (key : ModuleKey) : List ModuleKey :=
  match r.entries.find? key with
  | some registration => registration.dependencies
  | none => []

/-- The dependencies of a module that are not loaded. -/
def missing (r : Registry) (key : ModuleKey) (loaded : KeySet ModuleKey) : List ModuleKey :=
  (r.dependencies key).filter fun dependency => !loaded.contains dependency

/-- All registered keys, ascending. -/
def known (r : Registry) : List ModuleKey := r.entries.keys

/-- The registry in a debugging message. -/
def debug (r : Registry) : String :=
  "ModuleRegistry "
    ++ Text.braced (" modules: " ++ Text.quotedList (r.known.map ModuleKey.display) ++ " ")

end Registry

end ReleasePipeline
