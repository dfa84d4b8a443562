/-
Artifacts: the files that a run produces and that later modules pick up.
-/
import ReleasePipeline.Path
import ReleasePipeline.Target

set_option autoImplicit false

namespace ReleasePipeline

/-- How the bytes of an artifact are packed. -/
inductive Packing where
  | raw
  /-- An executable compressed in place. -/
  | upx
  deriving DecidableEq, Inhabited, Repr

/-- The name of a packing. -/
def Packing.name : Packing → String
  | .raw => "raw"
  | .upx => "upx"

/-- A file recorded for later modules. -/
structure Artifact where
  /-- The name of the build, shared by the artifacts of all its targets. -/
  id : String
  /-- The name at the destination: inside an archive, or on a release. -/
  filename : String
  /-- Where the file was written. -/
  location : Path
  /-- The platform it is for; both names are empty when it is for none. -/
  target : Target := {}
  packing : Packing := .raw
  deriving DecidableEq, Inhabited

namespace Artifact

/-- The key of artifacts that are for no platform. -/
def anyTarget : String := "noarch"

/-- The platform, if there is one. -/
def target? (a : Artifact) : Option Target :=
  if a.target.os = "" ∧ a.target.arch = "" then none else some a.target

/-- The key under which the artifact is grouped. -/
def key (a : Artifact) : String :=
  match a.target? with
  | some t => t.key
  | none => anyTarget

end Artifact

end ReleasePipeline
