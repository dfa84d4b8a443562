/-
What the modules of one run hand on to each other.

Beside the files that they leave, the context is all that modules learn from those before them: who
the project is and which version of it is built, where products go, whether they are published, and
which artifacts there are. A module that is run twice sees the context that the modules in between
left.
-/
import ReleasePipeline.Catalog
import ReleasePipeline.Environment
import ReleasePipeline.Repository
import ReleasePipeline.Template

set_option autoImplicit false

namespace ReleasePipeline

/-- The state of a run that modules see and change. -/
structure Context where
  projectName : String := ""
  version : String := ""
  /-- Where modules write what they produce. -/
  targetDirectory : Path := ⟨""⟩
  /-- Whether the publish stage runs. -/
  publish : Bool := false
  environment : Environment := {}
  repository : Repository := {}
  catalog : Catalog := {}
  deriving DecidableEq, Inhabited

namespace Context

/-- The values that templates can use before a target is chosen. -/
def scope (ctx : Context) : Template.Scope where
  projectName := ctx.projectName
  version := ctx.version
  repository := ctx.repository
  environment := ctx.environment

/-- Records artifacts. -/
def record (ctx : Context) (artifacts : List Artifact) : Context :=
  { ctx with catalog := ctx.catalog.addAll artifacts }

end Context

end ReleasePipeline
