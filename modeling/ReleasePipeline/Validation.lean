/-
Checking a document without running it.

The check goes through the document as loading does, but goes on after a fault and collects them
all: faults of sections and their items, then a fault of the default modules, then modules whose
dependencies no stage provides. What loading passes over in silence is a warning.

An item is checked by loading it, into the stage as the items before it left it. So an item can be
wrong because of another one, and an item behind a wrong one is judged as if that were not there.
-/
import ReleasePipeline.Pipeline

set_option autoImplicit false

namespace ReleasePipeline

/-- What a check found. -/
structure ValidationReport where
  errors : List String := []
  warnings : List String := []
  deriving DecidableEq, Inhabited

namespace ValidationReport

/-- Nothing is wrong. -/
def isOk (r : ValidationReport) : Bool := r.errors.isEmpty

/-- The findings of two checks, one after the other. -/
def merge (a b : ValidationReport) : ValidationReport :=
  ⟨a.errors ++ b.errors, a.warnings ++ b.warnings⟩

/-- A single error. -/
def error (message : String) : ValidationReport := { errors := [message] }

/-- A single warning. -/
def warning (message : String) : ValidationReport := { warnings := [message] }

end ValidationReport

namespace Stage

/-- Loads all items that can be loaded, and reports those that cannot. -/
def checkItems (registry : Registry) (s : Stage) :
    Nat → List Yaml.Value → Stage × ValidationReport
  | _, [] => (s, {})
  | index, item :: rest =>
    let r := s.loadItem registry index item
    let report : ValidationReport := match r.error? with
      | some e => .error e.message
      | none => {}
    -- an item that is refused leaves the stage as it was
    let (s, later) := checkItems registry r.value (index + 1) rest
    (s, report.merge later)

/-- Loads what can be loaded of a section, and reports the rest. -/
def checkSection (registry : Registry) (s : Stage) (section_ : Yaml.Value) :
    Stage × ValidationReport :=
  match section_ with
  | .list items =>
    let (s, report) := s.checkItems registry 1 items
    (s,
      if items.isEmpty then report.merge (.warning ("Section '" ++ s.plural ++ "' has no modules"))
      else report)
  | _ => (s, .error (LoadError.notASequence s.name).message)

end Stage

namespace Pipeline

/-- Checks a section in the first stage with its label. -/
def checkIn (registry : Registry) (label : String) (section_ : Yaml.Value) :
    List Stage → List Stage × ValidationReport
  | [] => ([], .warning ("Unknown section '" ++ label ++ "' is ignored"))
  | s :: rest =>
    if s.plural == label then
      let (s, report) := s.checkSection registry section_
      (s :: rest, report)
    else
      let (rest, report) := checkIn registry label section_ rest
      (s :: rest, report)

/-- Checks sections one after the other. -/
def checkSections (p : Pipeline) : Yaml.Entries → Pipeline × ValidationReport
  | [] => (p, {})
  | (label, section_) :: rest =>
    match label.asText? with
    | none =>
      let (p, later) := checkSections p rest
      (p, (ValidationReport.warning "Ignoring section with a non-string label").merge later)
    | some label =>
      let (stages, report) := checkIn p.registry label section_ p.stages
      let (p, later) := checkSections { p with stages } rest
      (p, report.merge later)

/-- The message about a module with missing dependencies. -/
def requiresMessage (key : ModuleKey) (missing : List ModuleKey) : String :=
  "Module " ++ key.display ++ " requires " ++ ModuleKey.displayAll missing
    ++ " which no stage provides"

/-- Reports the modules whose dependencies are not loaded. -/
def checkDependencies (p : Pipeline) : ValidationReport where
  errors := p.keys.filterMap fun key =>
    match p.registry.missing key p.loaded with
    | [] => none
    | missing => some (requiresMessage key missing)

/-- Checks default modules and dependencies. -/
def checkRest (p : Pipeline) : ValidationReport :=
  let r := p.injectDefaults
  let report : ValidationReport := match r.error? with
    | some e => .error e.message
    | none => {}
  report.merge r.value.checkDependencies

/-- Checks a document against a registry. -/
def validate (registry : Registry) (document : Yaml.Value) : ValidationReport :=
  match document with
  | .null => (standard registry).checkRest
  | .map sections =>
    let (p, report) := (standard registry).checkSections sections
    report.merge p.checkRest
  | _ => .error LoadError.notAMap.message

end Pipeline

end ReleasePipeline
