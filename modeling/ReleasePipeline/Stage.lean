/-
A stage: one phase of a pipeline, and the loading of modules into it.

A stage holds its modules in the order of their declaration, and beside them the set of
their keys. Modules are only ever added at the end. An item that cannot be loaded leaves
the stage as it was; a section is loaded item by item up to the first that cannot be.
-/
import ReleasePipeline.Registry

set_option autoImplicit false

namespace ReleasePipeline

/-! ## Errors -/

/-- Why a pipeline cannot be loaded. -/
inductive LoadError where
  | notAMap
  | notASequence (stage : String)
  | notAMapping (stage : String) (index : Nat)
  | missingType
  | invalidType
  /-- An item of a section cannot be loaded; items count from one. -/
  | definition (stage : String) (index : Nat) (error : LoadError)
  | unknownModule (stage kind : String)
  | duplicateModule (key : ModuleKey)
  | decode (key : ModuleKey) (error : RegistryError)
  | registry (error : RegistryError)
  deriving DecidableEq, Inhabited

/-- The wording of the error. -/
def LoadError.message : LoadError → String
  | .notAMap => "pipeline definition is not a map"
  | .notASequence stage => "definition of `" ++ stage ++ "` is not a sequence"
  | .notAMapping stage index =>
    "item #" ++ toString index ++ " of `" ++ stage ++ "` definition is not a map"
  | .missingType => "type not defined"
  | .invalidType => "type is not a string"
  | .definition stage index error =>
    "definition " ++ stage ++ ", item #" ++ toString index ++ ": " ++ error.message
  | .unknownModule stage kind => "unknown module " ++ stage ++ ":" ++ kind
  | .duplicateModule key => "module " ++ key.display ++ " already loaded"
  | .decode key error => "cannot decode module " ++ key.display ++ ": " ++ error.message
  | .registry error => error.message

/-! ## Loading step by step -/

/-- A call of a constructor. -/
structure Creation where
  key : ModuleKey
  params : Option Yaml.Entries

/-- What a loading step leaves: the value as it then is, the constructors that were called,
and why it stopped, if it did. -/
structure Loaded (α : Type) where
  value : α
  created : List Creation := []
  error? : Option LoadError := none

namespace Loaded

variable {α β : Type}

/-- A second step, unless the first one stopped. -/
def andThen (r : Loaded α) (step : α → Loaded α) : Loaded α :=
  match r.error? with
  | some _ => r
  | none =>
    let next := step r.value
    { next with created := r.created ++ next.created }

/-- The same step seen from outside. -/
def map (f : α → β) (r : Loaded α) : Loaded β :=
  { value := f r.value, created := r.created, error? := r.error? }

end Loaded

/-! ## Stages -/

/-- A module of a stage: its type as it was asked for, and the key it was found under. -/
structure StageModule where
  kind : String
  key : ModuleKey
  module : Module

/-- One phase of a pipeline. -/
structure Stage where
  name : String
  /-- The label of the section that declares the modules of the stage. -/
  plural : String
  modules : List StageModule := []
  /-- Tells from the context whether the stage is skipped, if it can be. -/
  skip : Option (Context → Bool) := none
  /-- The keys of the modules. -/
  loaded : KeySet ModuleKey := .empty
  /-- The registry of the stage, if it does not share that of its pipeline. -/
  registry? : Option Registry := none

namespace Stage

/-- The stage is skipped in this context. -/
def shouldSkip (s : Stage) (ctx : Context) : Bool :=
  match s.skip with
  | some skip => skip ctx
  | none => false

/-- The registry that the modules of the stage come from, in a pipeline with the given one. -/
def source (s : Stage) (registry : Registry) : Registry := s.registry?.getD registry

/-- The types of the modules, as they were asked for. -/
def kinds (s : Stage) : List String := s.modules.map (·.kind)

/-- The keys of the modules, in order. -/
def keys (s : Stage) : List ModuleKey := s.modules.map (·.key)

/-- The stage in a debugging message. -/
def debug (s : Stage) : String :=
  "Stage " ++ Text.braced (" name: " ++ Text.quoted s.name ++ ", plural: " ++ Text.quoted s.plural
    ++ ", modules: " ++ Text.quotedList s.kinds ++ ", skippable: "
    ++ (if s.skip.isSome then "true" else "false") ++ " ")

/-! ## Adding modules -/

/-- Appends a module. -/
def append (s : Stage) (m : StageModule) : Stage :=
  { s with modules := s.modules ++ [m], loaded := s.loaded.add m.key }

/-- Finds the module that a type means in the stage. With `once`, a module that is there
already is refused. -/
def resolve (registry : Registry) (s : Stage) (kind : String) (once : Bool) :
    Except LoadError (ModuleKey × Registration) :=
  match (s.source registry).lookup? s.name kind with
  | none => .error (.unknownModule s.name kind)
  | some (key, registration) =>
    if once && s.loaded.contains key then .error (.duplicateModule key)
    else .ok (key, registration)

/-- Adds the module that a type means, made from its parameters. -/
def add (registry : Registry) (s : Stage) (kind : String) (params : Option Yaml.Entries)
    (once : Bool) : Loaded Stage :=
  match s.resolve registry kind once with
  | .error e => { value := s, error? := some e }
  | .ok (key, registration) =>
    match registration.create params with
    | .error e => { value := s, created := [⟨key, params⟩], error? := some (.decode key e) }
    | .ok module => { value := s.append ⟨kind, key, module⟩, created := [⟨key, params⟩] }

/-! ## Loading sections -/

/-- The type that the parameters of an item name. -/
def itemType (params : Yaml.Entries) : Except LoadError String :=
  match params.findText? Schema.typeKey with
  | none => .error .missingType
  | some (.text kind) => .ok kind
  | some _ => .error .invalidType

/-- Adds the module that an item of a section declares; `index` counts from one. -/
def loadItem (registry : Registry) (s : Stage) (index : Nat) (item : Yaml.Value) : Loaded Stage :=
  match item with
  | .map params =>
    match itemType params with
    | .error e => { value := s, error? := some (.definition s.name index e) }
    | .ok kind =>
      let r := s.add registry kind (some params) false
      { r with error? := r.error?.map (.definition s.name index) }
  | _ => { value := s, error? := some (.notAMapping s.name index) }

/-- Adds the modules of items, the first of which has the given index. -/
def loadItems (registry : Registry) (s : Stage) : Nat → List Yaml.Value → Loaded Stage
  | _, [] => { value := s }
  | index, item :: rest =>
    (s.loadItem registry index item).andThen fun s => loadItems registry s (index + 1) rest

/-- Adds the modules of a section. -/
def loadSection (registry : Registry) (s : Stage) (section_ : Yaml.Value) : Loaded Stage :=
  match section_ with
  | .list items => s.loadItems registry 1 items
  | _ => { value := s, error? := some (.notASequence s.name) }

end Stage

end ReleasePipeline
