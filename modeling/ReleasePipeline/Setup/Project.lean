/-
The module that names the project and the directory for what is produced.

The directory is created when the module runs. Builds, archives, listings and notes are put below it
where their settings name a relative path; an absolute one leaves it behind.
-/
import ReleasePipeline.Registry

set_option autoImplicit false

namespace ReleasePipeline.Setup.Project

/-- The settings of the module. -/
structure Settings where
  name : String
  target : Path := ⟨"dist"⟩
  deriving DecidableEq

/-- The fields of the settings, and their defaults: a project is named after the directory it
is in. -/
def schema (directoryName : String) : Schema Settings where
  defaults := { name := directoryName }
  fields :=
    [.of "name" .text (·.name) fun v s => { s with name := v },
      .of "target" .path (·.target) fun v s => { s with target := v }]

/-- The part of the program that speaks. -/
def source : String := "shipline::modules::project"

/-- Creates the directory and records both. -/
def run (s : Settings) : RunM Unit := do
  RunM.host <|
    HostM.during (.creatingTargetDirectory s.target) (HostM.createDirectories s.target)
  RunM.update fun ctx => { ctx with projectName := s.name, targetDirectory := s.target }
  RunM.host (HostM.info source "Project configured")

/-- The module. -/
def module (s : Settings) : Module := .ofSteps (run s)

end ReleasePipeline.Setup.Project
