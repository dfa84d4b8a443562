/-
The module that learns version and repository data from `git`.

Four questions are asked in order, and each answer is recorded at once, so a run that fails at the
third question has the first two answers. An optional question that cannot be answered counts as
answered by nothing; the version has to be there in the end. Whether a commit is tagged decides
later which section of the changelog is cut and whether a release is a draft.
-/
import ReleasePipeline.Registry

set_option autoImplicit false

namespace ReleasePipeline.Setup.Git

/-- A question to `git`. -/
structure Question where
  /-- What is asked for. -/
  subject : String
  isRequired : Bool
  arguments : List String
  /-- Records the answer. -/
  record : String → Context → Context

/-- All questions, in order. -/
def questions : List Question :=
  [{ subject := "version info", isRequired := true,
     arguments := ["describe", "--tags", "--always", "--dirty"],
     record := fun answer ctx => { ctx with version := answer } },
    { subject := "current tag", isRequired := false,
      arguments := ["describe", "--exact-match", "--tags"],
      record := fun answer ctx => { ctx with repository.tag := answer } },
    { subject := "current ref", isRequired := true,
      arguments := ["-P", "show", "--format=%H", "-s"],
      record := fun answer ctx => { ctx with repository.reference := answer } },
    { subject := "url", isRequired := false,
      arguments := ["ls-remote", "--get-url"],
      record := fun answer ctx => { ctx with repository.url := answer } }]

/-- The module has no settings. -/
def schema : Schema Unit := { defaults := (), fields := [] }

/-- The part of the program that speaks. -/
def source : String := "shipline::modules::git"

/-- Asks a question. -/
def ask (env : Environment) (q : Question) : HostM String :=
  let answer :=
    HostM.captureProgram { program := "git", arguments := q.arguments, environment := env }
  if q.isRequired then HostM.during (.detecting q.subject) answer
  -- a commit need not have a tag, nor a branch an address
  else tryCatch answer fun _ => pure ""

/-- Asks questions in order and records the answers. -/
def askAll : List Question → RunM Unit
  | [] => pure ()
  | q :: rest => do
    let ctx ← RunM.context
    let answer ← RunM.host (ask ctx.environment q)
    RunM.update (q.record answer)
    askAll rest

/-- Asks all questions; the version must not be empty. -/
def run : RunM Unit := do
  askAll questions
  let ctx ← RunM.context
  if ctx.version = "" then RunM.host (HostM.fail .emptyVersion)
  else RunM.host (HostM.info source "Version detected")

/-- The module. -/
def module (_ : Unit) : Module := .ofSteps run

end ReleasePipeline.Setup.Git
