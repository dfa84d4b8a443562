/-
The module that copies artifacts to another machine with `scp`.

All selected artifacts are copied by one call of the program, to a target whose variables are
expanded first. A target has to be set; that nothing is selected is only worth a warning.
-/
import ReleasePipeline.Registry

set_option autoImplicit false

namespace ReleasePipeline.Publish.Copy

/-- The settings of the module. -/
structure Settings where
  builds : List String := ["archive"]
  skip : List String := []
  /-- Where the files go. -/
  target : String := ""
  deriving DecidableEq

/-- The fields of the settings, and their defaults. -/
def schema : Schema Settings where
  defaults := {}
  fields :=
    [.of "builds" (.list .text) (·.builds) fun v s => { s with builds := v },
      .of "skip" (.list .text) (·.skip) fun v s => { s with skip := v },
      .of "target" .text (·.target) fun v s => { s with target := v }]

/-- The part of the program that speaks. -/
def source : String := "shipline::modules::scp"

/-- The files to copy. -/
def files (s : Settings) (ctx : Context) : List String :=
  (ctx.catalog.group s.builds s.skip).artifacts.map (·.location.text)

/-- The arguments of the program: the files, and where they go. -/
def arguments (s : Settings) (ctx : Context) : List String :=
  files s ctx ++ [ctx.environment.expand s.target]

/-- Copies the selected artifacts. -/
def run (s : Settings) (ctx : Context) : HostM Unit := do
  if s.target = "" then HostM.fail .noCopyTarget
  else if (files s ctx).isEmpty then
    HostM.warn source "No artifacts to upload" [("builds", Text.quotedList s.builds)]
  else
    HostM.info source "Uploading artifacts"
    HostM.runProgram
      { program := "scp", arguments := arguments s ctx, environment := ctx.environment }

/-- The module. -/
def module (s : Settings) : Module := .ofReading (run s)

end ReleasePipeline.Publish.Copy
