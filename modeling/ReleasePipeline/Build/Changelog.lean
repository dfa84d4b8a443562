/-
The module that cuts the notes of a release out of a changelog.

It is the section of the current tag, or the one of what is not released yet where there is no tag.
The section is written below the target directory and recorded, by default as the artifact
`changelog`, which `publish:artifact` by default takes for its notes. A changelog without such a
section is an error, since a release would go out without notes.
-/
import ReleasePipeline.Build.Changelog.Section
import ReleasePipeline.Registry

set_option autoImplicit false

namespace ReleasePipeline.Build.Changelog

/-- The settings of the module. -/
structure Settings where
  id : String := "changelog"
  input : String := "CHANGELOG.md"
  /-- The file to write; the name of the changelog if it is empty. -/
  output : String := ""
  deriving DecidableEq

/-- The fields of the settings, and their defaults. -/
def schema : Schema Settings where
  defaults := {}
  fields :=
    [.of "id" .text (·.id) fun v s => { s with id := v },
      .of "input" .text (·.input) fun v s => { s with input := v },
      .of "output" .text (·.output) fun v s => { s with output := v }]

/-- The part of the program that speaks. -/
def source : String := "shipline::modules::changelog"

/-- The version whose section is cut: the current tag, or what is not released yet. -/
def wantedVersion (ctx : Context) : String :=
  if ctx.repository.tag = "" then "unreleased" else ctx.repository.tag

/-- Where the section is written. -/
def location (s : Settings) (ctx : Context) : Path :=
  ctx.targetDirectory.join ⟨if s.output = "" then s.input else s.output⟩

/-- Writes the section and records it. -/
def run (s : Settings) : RunM Unit := do
  let ctx ← RunM.context
  let contents ← RunM.host <|
    HostM.during (.readingChangelog s.input) (HostM.readText ⟨s.input⟩)
  let version := wantedVersion ctx
  match cut? contents version with
  | none => RunM.host (HostM.fail (.noChangelogSection version))
  | some text =>
    let location := location s ctx
    RunM.host (HostM.createParent location)
    RunM.host <|
      HostM.during (.writingChangelog location) (HostM.change (·.write location (.ofText text)))
    RunM.host (HostM.info source "Changelog section written")
    RunM.update (·.record [{ id := s.id, filename := s.input, location }])

/-- The module. -/
def module (s : Settings) : Module := .ofSteps (run s)

end ReleasePipeline.Build.Changelog
