/-
How often stages and modules have run since a run of the pipeline was started.
-/
import ReleasePipeline.Host.Report
import ReleasePipeline.Json
import ReleasePipeline.Sorted

set_option autoImplicit false

namespace ReleasePipeline

/-- Counts of the executions of stages and modules. -/
structure Metrics where
  /-- When the run started, if one has. -/
  startedAt : Option String := none
  stages : Table String Nat := .empty
  /-- By the key of the module. -/
  modules : Table String Nat := .empty
  /-- The stages that were skipped, in order. -/
  skipped : List String := []
  deriving Inhabited

namespace Metrics

/-- One more in a table of counts. -/
def count (t : Table String Nat) (name : String) : Table String Nat :=
  t.upsert name fun n => n.getD 0 + 1

/-- The metrics when a run starts: everything before is forgotten. -/
def start (now : String) : Metrics := { startedAt := some now }

/-- One more execution of a stage. -/
def countStage (m : Metrics) (name : String) : Metrics := { m with stages := count m.stages name }

/-- One more execution of a module. -/
def countModule (m : Metrics) (key : String) : Metrics :=
  { m with modules := count m.modules key }

/-- One more stage that was skipped. -/
def countSkip (m : Metrics) (name : String) : Metrics := { m with skipped := m.skipped ++ [name] }

/-! ## Written form -/

/-- A table of counts in the written form; durations are not measured. -/
def tableJson (t : Table String Nat) : Json :=
  .object <| t.toList.map fun (name, calls) =>
    (name, .object [("calls", .ofNat calls), ("total_duration_ms", .number "0.0"),
      ("max_duration_ms", .number "0.0")])

/-- The written form. -/
def toJson (m : Metrics) : Json :=
  .object [("started_at", (m.startedAt.map Json.string).getD .null),
    ("stages", tableJson m.stages), ("modules", tableJson m.modules),
    ("skipped_stages", .array (m.skipped.map .string)), ("total_duration_ms", .number "0.0")]

/-! ## In the log -/

/-- The part of the program that speaks. -/
def source : String := "shipline::observability"

/-- One event for the whole, one for each stage, and one for each module. -/
def events (m : Metrics) : List LogEvent :=
  let event (message : String) : LogEvent := { level := .info, source, message }
  event "Pipeline metrics summary" :: m.stages.keys.map (fun _ => event "Stage metrics")
    ++ m.modules.keys.map fun _ => event "Module metrics"

end Metrics

end ReleasePipeline
