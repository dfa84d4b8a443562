/-
The module that decides by a variable whether the publish stage runs.

Nothing changes unless the variable is there. Then it has to spell a truth value, and
publishing is on exactly when it is false.
-/
import ReleasePipeline.Registry

set_option autoImplicit false

namespace ReleasePipeline.Setup.PublishGate

/-- The settings of the module. -/
structure Settings where
  /-- The name of the variable. -/
  variableName : String := "SKIP_PUBLISH"
  deriving DecidableEq

/-- The fields of the settings, and their defaults. -/
def schema : Schema Settings where
  defaults := {}
  fields := [.of "env_name" .text (·.variableName) fun v s => { s with variableName := v }]

/-- The spellings of true. -/
def trueNames : List String := ["1", "t", "T", "TRUE", "true", "True"]

/-- The spellings of false. -/
def falseNames : List String := ["0", "f", "F", "FALSE", "false", "False"]

/-- The truth value that a text spells. -/
def parseBool? (text : String) : Option Bool :=
  if text ∈ trueNames then some true
  else if text ∈ falseNames then some false
  else none

/-- The part of the program that speaks. -/
def source : String := "shipline::modules::skip_publish"

/-- Switches publishing as the variable says. -/
def run (s : Settings) : RunM Unit := do
  let ctx ← RunM.context
  match ctx.environment.get? s.variableName with
  | none => pure ()
  | some value =>
    match parseBool? value with
    | none => RunM.host (HostM.fail (.notBoolean s.variableName value))
    | some skip =>
      RunM.update fun ctx => { ctx with publish := !skip }
      RunM.host (HostM.info source "Publishing toggled")

/-- The module. -/
def module (s : Settings) : Module := .ofSteps (run s)

end ReleasePipeline.Setup.PublishGate
