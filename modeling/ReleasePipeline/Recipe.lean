/-
Pipeline documents: where they are looked for, and how they are read.
-/
import ReleasePipeline.Host
import ReleasePipeline.Yaml.Document

set_option autoImplicit false

namespace ReleasePipeline

/-- A document that declares a pipeline. -/
structure Recipe where
  path : Option Path := none
  document : Yaml.Value

namespace Recipe

/-- The variable that names the document to use. -/
def configVariable : String := "SHIPLINE_CONFIG"

/-- The file name of the document. -/
def defaultName : String := ".shipline.yml"

/-- The file name of a document that is preferred where it is there. -/
def localName : String := ".shipline.local.yml"

/-- Picks the document: an explicit path, then the one that a variable names, then the
preferred file of the directory if it is there, then the default one. -/
def choosePath (files : Files) (explicit : Option Path) (named : Option String)
    (directory : Path) : Path :=
  match explicit with
  | some p => p
  | none =>
    match named.filter (· ≠ "") with
    | some p => ⟨p⟩
    | none =>
      let preferred := directory.child localName
      if files.isFile preferred then preferred else directory.child defaultName

/-- The value of a variable of the surrounding process, if it is a text. -/
def processText? (process : List Setup.ProcessVariable) (name : String) : Option String :=
  (process.find? fun row => row.1 == Text.encode name).bind fun row => Text.decode? row.2

/-- Picks the document for a host: the working directory is searched, and the variable is
one of the surrounding process. -/
def detectPath (h : Host) (explicit : Option Path) : Path :=
  choosePath h.files explicit (processText? h.processVariables configVariable) ⟨"."⟩

/-- The top-level labels that are texts, in order. -/
def labels (document : Yaml.Value) : List String :=
  match document with
  | .map sections => sections.filterMap fun entry => entry.1.asText?
  | _ => []

/-- Reads a document. -/
def load (p : Path) : HostM Recipe := do
  let text ← HostM.during (.readingPipeline p) (HostM.readText p)
  match Yaml.Value.parse? text with
  | some document => pure { path := some p, document }
  | none => HostM.during (.parsingPipeline p) (HostM.fail .notYaml)

end Recipe

end ReleasePipeline
