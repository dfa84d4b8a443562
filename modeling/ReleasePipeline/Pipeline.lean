/-
A pipeline: stages in order, and the loading of a document into them.

A document maps the labels of stages to sections. The sections are loaded in the order of
the document; a label that no stage has is passed over. Loading stops at the first fault,
and what was loaded before it stays.
-/
import ReleasePipeline.Stage

set_option autoImplicit false

namespace ReleasePipeline

/-- Stages in the order in which they run, and the registry of those that have none of their
own. -/
structure Pipeline where
  registry : Registry
  stages : List Stage := []

namespace Pipeline

/-! ## Views -/

/-- The first stage of a name, for whoever loads or runs a stage by itself. -/
def stage? (p : Pipeline) (name : String) : Option Stage := p.stages.find? (·.name == name)

/-- The keys of all modules, in the order in which they run. -/
def keys (p : Pipeline) : List ModuleKey := p.stages.flatMap Stage.keys

/-- The keys that are loaded in any stage. -/
def loaded (p : Pipeline) : KeySet ModuleKey :=
  KeySet.ofMembers (p.stages.flatMap fun s => s.loaded.keys)

/-! ## Loading -/

/-- Takes a loading step in the first stage that satisfies a condition; without such a stage
nothing happens. -/
def stepIn (condition : Stage → Bool) (step : Stage → Loaded Stage) :
    List Stage → Loaded (List Stage)
  | [] => { value := [] }
  | s :: rest =>
    if condition s then (step s).map (· :: rest)
    else (stepIn condition step rest).map (s :: ·)

/-- Takes a loading step in the first stage that satisfies a condition. -/
def inStage (p : Pipeline) (condition : Stage → Bool) (step : Stage → Loaded Stage) :
    Loaded Pipeline :=
  (stepIn condition step p.stages).map fun stages => { p with stages }

/-- Adds a module to the stage of a name. -/
def add (p : Pipeline) (stage kind : String) (params : Option Yaml.Entries) (once : Bool) :
    Loaded Pipeline :=
  p.inStage (·.name == stage) fun s => s.add p.registry kind params once

/-- Loads a section into the stage with its label. -/
def loadSection (p : Pipeline) (label : String) (section_ : Yaml.Value) : Loaded Pipeline :=
  p.inStage (·.plural == label) fun s => s.loadSection p.registry section_

/-- Loads sections one after the other. Only a label that is a text can be that of a stage. -/
def loadSections (p : Pipeline) : Yaml.Entries → Loaded Pipeline
  | [] => { value := p }
  | (label, section_) :: rest =>
    match label.asText? with
    -- a label that is no text is that of no stage
    | none => loadSections p rest
    | some label => (p.loadSection label section_).andThen fun p => loadSections p rest

/-- Loads a document. -/
def load (p : Pipeline) (document : Yaml.Value) : Loaded Pipeline :=
  match document with
  | .null => { value := p }
  | .map sections => p.loadSections sections
  | _ => { value := p, error? := some .notAMap }

/-! ## Default modules -/

/-- Adds a module with its default settings to its stage, if there is one; a module that is
there already is refused. -/
def loadDefault (p : Pipeline) (kind : String) : Loaded Pipeline :=
  match ModuleKey.parse? kind with
  | none => { value := p, error? := some (.registry (.invalidKind kind)) }
  | some key => p.add key.stage key.kind none true

/-- The modules that every pipeline has. -/
def defaultModules : List String :=
  ["setup:env", "setup:project", "setup:git", "setup:skip_publish"]

/-- A default module that is there already, or that nobody registered, is no fault. -/
def tolerate (r : Loaded Pipeline) : Loaded Pipeline :=
  match r.error? with
  | some (.duplicateModule _) => { r with error? := none }
  | some (.unknownModule _ _) => { r with error? := none }
  | _ => r

/-- Adds default modules that the document did not configure. -/
def injectAll (p : Pipeline) : List String → Loaded Pipeline
  | [] => { value := p }
  | kind :: rest => (tolerate (p.loadDefault kind)).andThen fun p => injectAll p rest

/-- Adds the modules that every pipeline has. -/
def injectDefaults (p : Pipeline) : Loaded Pipeline := p.injectAll defaultModules

/-! ## The standard pipeline -/

/-- The standard stages. Publishing is skipped unless the context asks for it. -/
def standardStages : List Stage :=
  [{ name := "setup", plural := "setups" }, { name := "build", plural := "builds" },
    { name := "publish", plural := "publishes", skip := some fun ctx => !ctx.publish }]

/-- The standard pipeline without modules. -/
def standard (registry : Registry) : Pipeline := { registry, stages := standardStages }

/-- The standard pipeline of a document, with the modules that every pipeline has. -/
def ofDocument (registry : Registry) (document : Yaml.Value) : Loaded Pipeline :=
  ((standard registry).load document).andThen injectDefaults

end Pipeline

end ReleasePipeline
