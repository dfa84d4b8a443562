/-
What goes into an archive, and under which names.

An archive holds the artifacts of one target and a set of other files. Each entry has a
name relative to the archive, under the common directory if there is one; the directories
above an entry are put in before it, each once.
-/
import ReleasePipeline.Context
import ReleasePipeline.Failure

set_option autoImplicit false

namespace ReleasePipeline.Archive

/-! ## Names -/

/-- Without any `mark` at the front. -/
def dropLeading (mark : List Char) (cs : List Char) : List Char :=
  match mark with
  | [] => cs
  | m :: rest => loop m rest cs.length cs
where
  /-- Takes the mark away as often as it is there, at most as often as the number says. -/
  loop (m : Char) (rest : List Char) : Nat → List Char → List Char
    | 0, cs => cs
    | n + 1, cs =>
      match (m :: rest).isPrefixOf? cs with
      | some cs => loop m rest n cs
      | none => cs

/-- Without the slashes at both ends. -/
def trimSlashes (cs : List Char) : List Char :=
  (((cs.dropWhile (· == '/')).reverse).dropWhile (· == '/')).reverse

/-- A name made relative: without steps that stay where they are, and then without slashes,
at the front. -/
def relativeName (name : String) : String :=
  String.ofList ((dropLeading ['.', '/'] name.toList).dropWhile (· == '/'))

/-! ## Plans -/

/-- An archive to be written. -/
structure Plan where
  /-- The target that all artifacts are for, if they are for one. -/
  target : Option Target
  /-- The directory inside the archive that holds every entry; empty for none. -/
  commonDirectory : String
  /-- The file name of the archive. -/
  output : String
  artifacts : List Artifact
  deriving DecidableEq

namespace Plan

/-- The name of an entry. -/
def entryName (plan : Plan) (name : String) : String :=
  if plan.commonDirectory = "" then relativeName name
  else plan.commonDirectory ++ "/" ++ relativeName name

/-- The name that a file of the working directory has before it is made an entry. -/
def portableName (p : Path) : String :=
  String.ofList (p.text.toList.map fun c => if c = '\\' then '/' else c)

/-- The names of all entries and the files they are copied from, artifacts first. -/
def entries (plan : Plan) (files : List Path) : List (String × Path) :=
  plan.artifacts.map (fun a => (plan.entryName a.filename, a.location))
    ++ files.map fun p => (plan.entryName (portableName p), p)

/-- The artifact that the archive is. -/
def toArtifact (plan : Plan) (id : String) (location : Path) : Artifact :=
  { id, filename := plan.output, location, target := plan.target.getD {} }

end Plan

/-- Renders a text that is part of a module's settings. -/
def renderText (scope : Template.Scope) (template text : String) : Except Failure String :=
  match scope.render template text with
  | .ok s => .ok s
  | .error e => .error (.during (.rendering text) (.because (.template e)))

/-- Plans the archive for a group of artifacts: common directory and file name are templates
that see the target of the group and the extension. -/
def Plan.make (module extension commonDirectory output : String) (ctx : Context)
    (artifacts : List Artifact) : Except Failure Plan := do
  let target := artifacts.head?.bind Artifact.target?
  let scope := { ctx.scope with target := target.getD {}, extension }
  let directory ← renderText scope module commonDirectory
  let output ← renderText scope module output
  return {
    target
    commonDirectory := String.ofList (trimSlashes directory.toList)
    output
    artifacts }

/-! ## Directories -/

/-- The directories above an entry, the outermost first, each with a slash at its end. -/
def directoriesAbove (entry : String) : List String :=
  loop [] (Text.splitOn '/' entry.toList)
where
  /-- Goes through the steps of the name; `above` is what was passed, with its slash. -/
  loop (above : List Char) : List (List Char) → List String
    | [] => []
    | [_] => []
    | part :: rest =>
      let here := above ++ part ++ ['/']
      String.ofList here :: loop here rest

/-- The directories above an entry that have not been seen, and what has been seen then. -/
def newDirectories (seen : List String) (entry : String) : List String × List String :=
  let new := (directoriesAbove entry).filter fun d => !seen.contains d
  (new, seen ++ new)

end ReleasePipeline.Archive
