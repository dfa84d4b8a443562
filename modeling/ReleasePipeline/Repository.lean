/-
What is known about the repository that a release is built from.
-/

set_option autoImplicit false

namespace ReleasePipeline

/-- Data of the current commit. -/
structure Repository where
  /-- The tag that sits exactly on the commit, if any. -/
  tag : String := ""
  /-- The full hash of the commit. -/
  reference : String := ""
  /-- Where the current branch is pulled from. -/
  url : String := ""
  deriving DecidableEq, Inhabited

end ReleasePipeline
