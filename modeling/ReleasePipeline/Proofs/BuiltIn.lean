/-
The built-in modules, one by one.

A document names a module by a stage and a type, as `type: go` among the `builds`. There are
thirteen that come with the program. `BuiltInModule` names them, and each has a key, a schema, a
module made from settings and the keys it depends on. Twelve belong to one stage; the listing
(`type: show`) is registered for any.

The registry holds these and nothing else (`Registry.find?_builtIn_eq_some_iff`), so what is to be
said of everything that a document can load is said of the thirteen by cases. A fourteenth would be
one more constructor here, and every such proof would ask for it.
-/
import ReleasePipeline.BuiltIn
import ReleasePipeline.Proofs.Sorted

set_option autoImplicit false

namespace ReleasePipeline

/-- A module that comes with the program. -/
inductive BuiltInModule where
  | listing
  | capture
  | project
  | git
  | gate
  | go
  | checksum
  | zip
  | tar
  | upx
  | changelog
  | copy
  | release
  deriving DecidableEq

namespace BuiltInModule

/-- The stage and the type that it is registered under. -/
def key : BuiltInModule → ModuleKey
  | listing => ⟨ModuleKey.anyStage, "show"⟩
  | capture => ⟨"setup", "env"⟩
  | project => ⟨"setup", "project"⟩
  | git => ⟨"setup", "git"⟩
  | gate => ⟨"setup", "skip_publish"⟩
  | go => ⟨"build", "go"⟩
  | checksum => ⟨"build", "checksum"⟩
  | zip => ⟨"build", "zip"⟩
  | tar => ⟨"build", "tar"⟩
  | upx => ⟨"build", "upx"⟩
  | changelog => ⟨"build", "changelog"⟩
  | copy => ⟨"publish", "scp"⟩
  | release => ⟨"publish", "artifact"⟩

/-- What it can be told. -/
def Settings : BuiltInModule → Type
  | listing | capture | git => Unit
  | project => Setup.Project.Settings
  | gate => Setup.PublishGate.Settings
  | go => Build.Go.Settings
  | checksum => Build.Checksum.Settings
  | zip => Build.Zip.Settings
  | tar => Build.Tar.Settings
  | upx => Build.Upx.Settings
  | changelog => Build.Changelog.Settings
  | copy => Publish.Copy.Settings
  | release => Publish.Release.Settings

/-- The fields of its settings, and their defaults. -/
def schema (directoryName : String) : (m : BuiltInModule) → Schema m.Settings
  | listing => Show.schema
  | capture => Setup.CaptureEnvironment.schema
  | project => Setup.Project.schema directoryName
  | git => Setup.Git.schema
  | gate => Setup.PublishGate.schema
  | go => Build.Go.schema
  | checksum => Build.Checksum.schema
  | zip => Build.Zip.schema
  | tar => Build.Tar.schema
  | upx => Build.Upx.schema
  | changelog => Build.Changelog.schema
  | copy => Publish.Copy.schema
  | release => Publish.Release.schema

/-- The module that settings make. -/
def module : (m : BuiltInModule) → m.Settings → Module
  | listing => Show.module
  | capture => Setup.CaptureEnvironment.module
  | project => Setup.Project.module
  | git => Setup.Git.module
  | gate => Setup.PublishGate.module
  | go => Build.Go.module
  | checksum => Build.Checksum.module
  | zip => Build.Zip.module
  | tar => Build.Tar.module
  | upx => Build.Upx.module
  | changelog => Build.Changelog.module
  | copy => Publish.Copy.module
  | release => Publish.Release.module

/-- The modules that it depends on. -/
def dependencies : BuiltInModule → List ModuleKey
  | gate => [capture.key]
  | go => [project.key, git.key]
  | release => [git.key]
  | _ => []

/-- What is registered for it. -/
def registration (directoryName : String) (m : BuiltInModule) : Registration :=
  .ofSchema (m.schema directoryName) m.module m.dependencies

/-- All of them, in the order of their keys. -/
def all : List BuiltInModule :=
  [listing, changelog, checksum, go, tar, upx, zip, release, copy, capture, git, project, gate]

/-- The list is complete. -/
theorem mem_all (m : BuiltInModule) : m ∈ all := by
  cases m <;> decide

end BuiltInModule

namespace Registry

/-- The rows of the registry. -/
theorem toList_builtIn (directoryName : String) :
    (builtIn directoryName).entries.toList
      = BuiltInModule.all.map fun m => (m.key, m.registration directoryName) := rfl

/-- Exactly the built-in modules are registered. -/
theorem find?_builtIn_eq_some_iff {directoryName : String} {key : ModuleKey}
    {registration : Registration} :
    (builtIn directoryName).entries.find? key = some registration
      ↔ ∃ m : BuiltInModule, m.key = key ∧ m.registration directoryName = registration := by
  rw [Table.find?_eq_some_iff_mem, toList_builtIn, List.mem_map]
  constructor
  · rintro ⟨m, -, hm⟩
    exact ⟨m, Prod.mk.inj hm⟩
  · rintro ⟨m, rfl, rfl⟩
    exact ⟨m, m.mem_all, rfl⟩

end Registry

end ReleasePipeline
