/-
The module that builds a Go program for every target of its matrix.

All builds are worked out before any program is started. A build that fails takes away what
it left of its output. Artifacts are recorded as they are built, and stay recorded when a
later build or hook fails.
-/
import ReleasePipeline.Build.Go.Matrix
import ReleasePipeline.Registry

set_option autoImplicit false

namespace ReleasePipeline.Build.Go

/-- The part of the program that speaks. -/
def source : String := "shipline::modules::go"

/-- The command of a hook; a hook without words is no command. -/
def hookCommand? (env : Environment) (hook : String) : Option Command :=
  match (Text.words hook.toList).map String.ofList with
  | [] => none
  | program :: arguments => some { program, arguments, environment := env }

/-- Runs hooks in order, up to the first that fails. -/
def runHooks (env : Environment) : List String → HostM Unit
  | [] => pure ()
  | hook :: rest => do
    match hookCommand? env hook with
    | none => pure ()
    | some c => HostM.during (.runningHook hook) (HostM.runProgram c)
    runHooks env rest

/-- The command that builds for a target. -/
def buildCommand (s : Settings) (env : Environment) (b : TargetBuild) : Command :=
  let c : Command := {
    program := "go"
    arguments := ["build", "-o", b.location.text, "-ldflags", b.linkerFlags, s.package]
    environment := env }
  let c := (c.withVariable "GOOS" b.target.os).withVariable "GOARCH" b.target.arch
  match b.target.armVersion with
  | some v => c.withVariable "GOARM" (toString v)
  | none => c

/-- Takes away a file if it is there. -/
def discard (p : Path) : HostM Unit :=
  modify fun h =>
    match h.files.remove p with
    | .ok files => { h with files }
    | .error _ => h

/-- Builds for a target. -/
def build (s : Settings) (env : Environment) (b : TargetBuild) : HostM Unit := do
  HostM.createParent b.location
  tryCatch (HostM.runProgram (buildCommand s env b)) fun f => do
    -- what there is of the program may be half of it
    discard b.location
    throw (.building b.target f)

/-- Builds for each target and records what was built. -/
def buildAll (s : Settings) (env : Environment) : List TargetBuild → RunM Unit
  | [] => pure ()
  | b :: rest => do
    RunM.host (build s env b)
    RunM.host (HostM.info source "Build finished")
    RunM.update fun ctx => ctx.record [b.toArtifact s.id]
    buildAll s env rest

/-- Runs the hooks and builds. -/
def run (s : Settings) : RunM Unit := do
  let ctx ← RunM.context
  -- a template that cannot be rendered stops everything before it begins
  let builds ← RunM.host (HostM.ofExcept (s.builds ctx))
  RunM.host (runHooks ctx.environment s.before)
  buildAll s ctx.environment builds
  RunM.host (runHooks ctx.environment s.after)

/-- The module. -/
def module (s : Settings) : Module := .ofSteps (run s)

end ReleasePipeline.Build.Go
