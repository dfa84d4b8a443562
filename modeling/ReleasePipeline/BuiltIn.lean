/-
The registry of the modules that come with the program.

The module that shows the state of a run can be used in every stage, each other one in its own.
Publishing gate, builds and releases depend on modules of the setup stage: `setup:skip_publish` on
`setup:env`, whose variables it reads, `build:go` on `setup:project` and `setup:git`, which say
where builds go and which version they are of, and `publish:artifact` on `setup:git` alone. Modules
that only work on artifacts depend on none, since a pipeline may get its artifacts from elsewhere.

The name of the directory matters here because it is the default name of the project.
-/
import ReleasePipeline.Build.Changelog
import ReleasePipeline.Build.Checksum
import ReleasePipeline.Build.Go
import ReleasePipeline.Build.Tar
import ReleasePipeline.Build.Upx
import ReleasePipeline.Build.Zip
import ReleasePipeline.Publish.Copy
import ReleasePipeline.Publish.Release
import ReleasePipeline.Setup.Environment
import ReleasePipeline.Setup.Git
import ReleasePipeline.Setup.Project
import ReleasePipeline.Setup.PublishGate
import ReleasePipeline.Show

set_option autoImplicit false

namespace ReleasePipeline.Registry

/-- The registry of the built-in modules, for a project in a directory of the given name. -/
def builtIn (directoryName : String) : Registry :=
  let r : Registry := {}
  let r := r.register ModuleKey.anyStage "show" (.ofSchema Show.schema Show.module)
  let r := r.register "setup" "env"
    (.ofSchema Setup.CaptureEnvironment.schema Setup.CaptureEnvironment.module)
  let r := r.register "setup" "project"
    (.ofSchema (Setup.Project.schema directoryName) Setup.Project.module)
  let r := r.register "setup" "git" (.ofSchema Setup.Git.schema Setup.Git.module)
  let r := r.register "setup" "skip_publish"
    (.ofSchema Setup.PublishGate.schema Setup.PublishGate.module [⟨"setup", "env"⟩])
  let r := r.register "build" "go"
    (.ofSchema Build.Go.schema Build.Go.module [⟨"setup", "project"⟩, ⟨"setup", "git"⟩])
  let r := r.register "build" "checksum"
    (.ofSchema Build.Checksum.schema Build.Checksum.module)
  let r := r.register "build" "zip" (.ofSchema Build.Zip.schema Build.Zip.module)
  let r := r.register "build" "tar" (.ofSchema Build.Tar.schema Build.Tar.module)
  let r := r.register "build" "upx" (.ofSchema Build.Upx.schema Build.Upx.module)
  let r := r.register "build" "changelog"
    (.ofSchema Build.Changelog.schema Build.Changelog.module)
  let r := r.register "publish" "scp" (.ofSchema Publish.Copy.schema Publish.Copy.module)
  r.register "publish" "artifact"
    (.ofSchema Publish.Release.schema Publish.Release.module [⟨"setup", "git"⟩])

end ReleasePipeline.Registry
