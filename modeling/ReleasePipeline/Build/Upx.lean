/-
The module that compresses executables in place, by a program of its own.

The artifacts stay where they are and keep their names, so no artifact is added: those that there
are get marked as compressed. All of them are given to the program in one call, behind the arguments
of the settings, and if that fails none is marked.
-/
import ReleasePipeline.Registry

set_option autoImplicit false

namespace ReleasePipeline.Build.Upx

/-- The settings of the module. -/
structure Settings where
  builds : List String := ["default"]
  skip : List String := []
  /-- Arguments in front of the files. -/
  arguments : List String := []
  program : String := "upx"
  deriving DecidableEq

/-- The fields of the settings, and their defaults. -/
def schema : Schema Settings where
  defaults := {}
  fields :=
    [.of "builds" (.list .text) (·.builds) fun v s => { s with builds := v },
      .of "skip" (.list .text) (·.skip) fun v s => { s with skip := v },
      .of "args" (.list .text) (·.arguments) fun v s => { s with arguments := v },
      .of "program" .text (·.program) fun v s => { s with program := v }]

/-- The part of the program that speaks. -/
def source : String := "shipline::modules::upx"

/-- The files to compress. -/
def files (s : Settings) (ctx : Context) : List String :=
  (ctx.catalog.group s.builds s.skip).artifacts.map (·.location.text)

/-- The arguments of the program. -/
def arguments (s : Settings) (ctx : Context) : List String := s.arguments ++ files s ctx

/-- Compresses the selected executables and marks them as compressed. -/
def run (s : Settings) : RunM Unit := do
  let ctx ← RunM.context
  if (files s ctx).isEmpty then RunM.host (HostM.info source "No executables to compress")
  else
    RunM.host (HostM.info source "Compressing executables")
    RunM.host <| HostM.during (.compressing s.program) <| HostM.runProgram
      { program := s.program, arguments := arguments s ctx, environment := ctx.environment }
    RunM.update fun ctx => { ctx with catalog := ctx.catalog.setPacking s.builds s.skip .upx }

/-- The module. -/
def module (s : Settings) : Module := .ofSteps (run s)

end ReleasePipeline.Build.Upx
