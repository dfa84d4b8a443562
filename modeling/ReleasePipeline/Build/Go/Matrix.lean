/-
The matrix of targets that a program is built for.

Every operating system is combined with every architecture, and with every revision where
revisions matter; targets that are to be left out are dropped. Each remaining target gets
its settings from templates that see it.
-/
import ReleasePipeline.Context
import ReleasePipeline.Failure
import ReleasePipeline.Settings

set_option autoImplicit false

namespace ReleasePipeline.Build.Go

/-- The settings of a build. -/
structure Settings where
  /-- Commands that run before anything is built. -/
  before : List String := []
  /-- Commands that run after everything is built. -/
  after : List String := []
  systems : List String := ["linux", "windows"]
  architectures : List String := ["amd64"]
  /-- Revisions of the `arm` architecture. -/
  revisions : List UInt32 := [6]
  id : String := "default"
  linkerFlags : String := "-s -w -X main.version={{Version}}"
  /-- The package to build. -/
  package : String := "."
  output : String := "{{ProjectName}}{{Ext}}"
  /-- Keys of targets that are left out. -/
  skip : List String := []
  deriving DecidableEq

/-- The fields of the settings, and their defaults. -/
def schema : Schema Settings where
  defaults := {}
  fields :=
    [.of "before" (.list .text) (·.before) fun v s => { s with before := v },
      .of "after" (.list .text) (·.after) fun v s => { s with after := v },
      .of "goos" (.list .text) (·.systems) fun v s => { s with systems := v },
      .of "goarch" (.list .text) (·.architectures) fun v s => { s with architectures := v },
      .of "goarm" (.list .word) (·.revisions) fun v s => { s with revisions := v },
      .of "id" .text (·.id) fun v s => { s with id := v },
      .of "ldflags" .text (·.linkerFlags) fun v s => { s with linkerFlags := v },
      .of "main" .text (·.package) fun v s => { s with package := v },
      .of "output" .text (·.output) fun v s => { s with output := v },
      .of "skip" (.list .text) (·.skip) fun v s => { s with skip := v }]

/-! ## Targets -/

/-- The revisions to build for; they matter on one platform only. -/
def Settings.revisionsFor (s : Settings) (os arch : String) : List (Option UInt32) :=
  if os = "linux" ∧ arch = "arm" then s.revisions.map some else [none]

/-- All combinations. -/
def Settings.combinations (s : Settings) : List Target :=
  s.systems.flatMap fun os => s.architectures.flatMap fun arch =>
    (s.revisionsFor os arch).map fun armVersion => { os, arch, armVersion }

/-- The targets to build for. -/
def Settings.targets (s : Settings) : List Target :=
  s.combinations.filter fun t => !s.skip.contains t.key

/-! ## Builds -/

/-- A build for one target. -/
structure TargetBuild where
  target : Target
  linkerFlags : String
  directory : Path
  output : String
  deriving DecidableEq

/-- Where the program is put. -/
def TargetBuild.location (b : TargetBuild) : Path := b.directory.join ⟨b.output⟩

/-- The artifact that the build produces. -/
def TargetBuild.toArtifact (b : TargetBuild) (id : String) : Artifact :=
  { id, filename := b.output, location := b.location, target := b.target }

/-- The extension of programs on an operating system. -/
def programExtension (os : String) : String := if os = "windows" then ".exe" else ""

/-- The name that each target's directory is made from. -/
def directoryTemplate : String :=
  "{{ProjectName}}-{{OS}}-{{ArchName}}"

/-- The values that templates see for a target. -/
def targetScope (ctx : Context) (t : Target) : Template.Scope :=
  { ctx.scope with target := t, extension := programExtension t.os }

/-- Renders one of the settings for a target. -/
def renderFor (scope : Template.Scope) (activity : Activity) (text : String) :
    Except Failure String :=
  match scope.render "build:go" text with
  | .ok s => .ok s
  | .error e => .error (.during activity (.because (.template e)))

/-- The build for a target. -/
def Settings.resolve (s : Settings) (ctx : Context) (t : Target) : Except Failure TargetBuild := do
  let scope := targetScope ctx t
  let linkerFlags ← renderFor scope .renderingFlags s.linkerFlags
  let directory ← renderFor scope .renderingLocation directoryTemplate
  let output ← renderFor scope .renderingOutput s.output
  return { target := t, linkerFlags, directory := ctx.targetDirectory.join ⟨directory⟩, output }

/-- The builds for some targets, or the first failure. -/
def Settings.resolveAll (s : Settings) (ctx : Context) :
    List Target → Except Failure (List TargetBuild)
  | [] => .ok []
  | t :: rest => do
    let build ← s.resolve ctx t
    let later ← s.resolveAll ctx rest
    return build :: later

/-- All builds, in order. -/
def Settings.builds (s : Settings) (ctx : Context) : Except Failure (List TargetBuild) :=
  s.resolveAll ctx s.targets

end ReleasePipeline.Build.Go
