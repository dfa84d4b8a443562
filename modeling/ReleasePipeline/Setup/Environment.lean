/-
The module that captures the variables of the surrounding process.

Templates, paths and addresses refer to the variables of the run and not to those of the process, so
what was not captured is not there for them. A variable that was set before, such as the one that
`--publish` sets, is kept, and the process cannot change it.
-/
import ReleasePipeline.Registry

set_option autoImplicit false

namespace ReleasePipeline.Setup.CaptureEnvironment

/-- The module has no settings. -/
def schema : Schema Unit := { defaults := (), fields := [] }

/-- Captures the variables. -/
def run : RunM Unit := do
  let host ← RunM.host get
  RunM.update fun ctx =>
    { ctx with environment := capture ctx.environment host.processVariables }

/-- The module. -/
def module (_ : Unit) : Module := .ofSteps run

end ReleasePipeline.Setup.CaptureEnvironment
