/-
Templates: configuration texts with placeholders such as `{{Version}}`.

Rendering replaces each placeholder by the value of its field and then expands the variable
references of the result once. What a field puts in is not searched for further placeholders, but
variable references in it are expanded like any others. Two opening braces that begin no placeholder
are refused, and so is a placeholder whose field does not exist; of several faults the leftmost is
reported.

Names of archives and listings, common directories, names of releases, and of a build the flags, the
directory and the name are all templates. They differ in the scope: only where a target is chosen do
`{{OS}}`, `{{Arch}}` and their relatives say anything, and elsewhere they are empty and not an
error.
-/
import ReleasePipeline.Environment
import ReleasePipeline.Repository
import ReleasePipeline.Target
import ReleasePipeline.Template.Placeholder
import ReleasePipeline.Text.Quoted

set_option autoImplicit false

namespace ReleasePipeline

/-! ## Fields -/

/-- What a placeholder can refer to. -/
inductive Template.Field where
  | projectName
  | version
  | os
  | arch
  | archName
  | armVersion
  | extension
  | algorithm
  | archiveName
  | tag
  | reference
  | repositoryUrl
  | environmentVariable (name : String)
  deriving DecidableEq

/-- The field of a name: one of the fixed names, or `Env.` and a variable. -/
def Template.Field.ofName? (name : List Char) : Option Template.Field :=
  match "Env.".toList.isPrefixOf? name with
  | some var => some (.environmentVariable (String.ofList var))
  | none =>
    match String.ofList name with
    | "ProjectName" => some .projectName
    | "Version" => some .version
    | "OS" => some .os
    | "Arch" => some .arch
    | "ArchName" => some .archName
    | "ArmVersion" => some .armVersion
    | "Ext" => some .extension
    | "Algo" => some .algorithm
    | "ArchiveName" => some .archiveName
    | "Git.Tag" => some .tag
    | "Git.Ref" => some .reference
    | "Git.URL" => some .repositoryUrl
    | _ => none

/-- The values that placeholders take. -/
structure Template.Scope where
  projectName : String := ""
  version : String := ""
  target : Target := {}
  extension : String := ""
  algorithm : String := ""
  archiveName : String := ""
  repository : Repository := {}
  environment : Environment := {}
  deriving Inhabited

/-- The value of a field. A variable that is not there and an absent revision are
empty. -/
def Template.Scope.value (scope : Template.Scope) : Template.Field → String
  | .projectName => scope.projectName
  | .version => scope.version
  | .os => scope.target.os
  | .arch => scope.target.arch
  | .archName => scope.target.archName
  | .armVersion => (scope.target.armVersion.map toString).getD ""
  | .extension => scope.extension
  | .algorithm => scope.algorithm
  | .archiveName => scope.archiveName
  | .tag => scope.repository.tag
  | .reference => scope.repository.reference
  | .repositoryUrl => scope.repository.url
  | .environmentVariable name => scope.environment.getD name ""

/-! ## Rendering -/

/-- Why a template cannot be rendered. -/
inductive TemplateError where
  /-- Two opening braces that begin no placeholder, and how many bytes stand before
  them. -/
  | malformed (template : String) (offset : Nat)
  | unknownField (template field : String)
  deriving DecidableEq

/-- The wording of the error. -/
def TemplateError.message : TemplateError → String
  | .malformed template offset =>
    "template " ++ template ++ ": malformed placeholder at offset " ++ toString offset
  | .unknownField template field =>
    "template " ++ template ++ ": unknown field " ++ Text.quoted field

namespace Template

/-- The number of bytes of a text. -/
def byteLength : List Char → Nat
  | [] => 0
  | c :: cs => c.utf8Size + byteLength cs

/-- Puts the parts of a template together again, with values for placeholders;
`offset` bytes stand before the first part. -/
def renderPieces (scope : Scope) (template : String) :
    Nat → List Piece → Except TemplateError (List Char)
  | _, [] => .ok []
  | offset, .placeholder name spelling :: rest =>
    match Field.ofName? name with
    | none => .error (.unknownField template (String.ofList name))
    | some field => do
      let after ← renderPieces scope template (offset + byteLength spelling) rest
      .ok ((scope.value field).toList ++ after)
  | offset, .char c :: rest =>
    -- a brace next to a placeholder stands for itself, two braces do not
    if c = '{' ∧ rest.head? = some (.char '{') then .error (.malformed template offset)
    else do
      let after ← renderPieces scope template (offset + c.utf8Size) rest
      .ok (c :: after)

/-- Renders a template; `template` is its name in error messages. -/
def Scope.render (scope : Scope) (template text : String) : Except TemplateError String := do
  let filled ← renderPieces scope template 0 (pieces text.toList)
  .ok (scope.environment.expand (String.ofList filled))

end Template

end ReleasePipeline
