/-
Running a pipeline.

Stages run strictly in order, and the modules of a stage in the order of their declaration,
each on the context that the one before it left. A stage whose condition holds when its
turn comes is skipped. A module is executed only when all it depends on is loaded; the
first that is refused or fails ends the run.

What has been executed is recorded in order, so that a statement about the run can be a
statement about that list.
-/
import ReleasePipeline.Metrics
import ReleasePipeline.Pipeline
import ReleasePipeline.Text.Casing

set_option autoImplicit false

namespace ReleasePipeline

/-! ## Errors -/

/-- Why a run ended early. -/
inductive RunError where
  | missingDependencies (stage module : String) (missing : List ModuleKey)
  | execution (stage module : String) (failure : Failure)
  deriving DecidableEq

/-- The wording of the error. -/
def RunError.message : RunError → String
  | .missingDependencies stage module missing =>
    "stage " ++ stage ++ ": " ++ module ++ ": missing dependencies " ++ ModuleKey.displayAll missing
  | .execution stage module failure =>
    "stage " ++ stage ++ ": " ++ module ++ ": " ++ failure.message

/-! ## State -/

/-- An execution of a module. -/
structure Execution where
  stage : String
  kind : String
  key : ModuleKey
  /-- The context that the module was given. -/
  given : Context
  /-- The context that it left, whether it failed or not. -/
  left : Context
  /-- It did not fail. -/
  succeeded : Bool
  deriving DecidableEq

/-- The state of a run. -/
structure RunState where
  context : Context := {}
  host : Host := {}
  metrics : Metrics := {}
  /-- The modules executed so far, in order. -/
  executed : List Execution := []
  deriving Inhabited

/-- What became of a stage. -/
inductive StageOutcome where
  | skipped
  | completed
  deriving DecidableEq, Repr

namespace RunState

/-- Logs a message of the pipeline itself. -/
def say (st : RunState) (message : String) : RunState :=
  { st with host := st.host.say (.log { level := .info, source := "shipline::pipeline", message }) }

end RunState

namespace Stage

/-! ## Running a stage -/

/-- Executes a module. -/
def execute (s : Stage) (m : StageModule) (st : RunState) : RunState × Except Failure Unit :=
  let st := st.say ("----> " ++ m.kind)
  let outcome := m.module.run st.context st.host
  -- what the module did stays done, and it counts, whether it succeeded or not
  let succeeded := match outcome.result with
    | .ok _ => true
    | .error _ => false
  let st := { st with
    context := outcome.context
    host := outcome.host
    metrics := st.metrics.countModule m.key.display
    executed := st.executed ++
      [{ stage := s.name, kind := m.kind, key := m.key, given := st.context,
         left := outcome.context, succeeded }] }
  (if succeeded then st.say ("<---- " ++ m.kind ++ " done") else st, outcome.result)

/-- Executes modules in order, up to the first that is refused or fails. -/
def executeAll (registry : Registry) (loaded : KeySet ModuleKey) (s : Stage) :
    List StageModule → RunState → RunState × Option RunError
  | [], st => (st, none)
  | m :: rest, st =>
    match (s.source registry).missing m.key loaded with
    | [] =>
      match s.execute m st with
      | (st, .ok _) => executeAll registry loaded s rest st
      | (st, .error f) => (st, some (.execution s.name m.kind f))
    -- a module that is refused is neither announced nor counted
    | missing => (st, some (.missingDependencies s.name m.kind missing))

/-- The name of the stage as it heads its part of the log. -/
def banner (s : Stage) : String := Text.upper s.name

/-- Runs a stage, or skips it. -/
def run (registry : Registry) (loaded : KeySet ModuleKey) (s : Stage) (st : RunState) :
    RunState × Except RunError StageOutcome :=
  let st := st.say ("====> " ++ s.banner)
  if s.shouldSkip st.context then
    let st := st.say "SKIPPED"
    let st := { st with metrics := st.metrics.countSkip s.name }
    (st.say ("<==== " ++ s.banner ++ " done"), .ok .skipped)
  else
    -- a stage counts once it is entered, whether it reaches its end or not
    match s.executeAll registry loaded s.modules st with
    | (st, some e) => ({ st with metrics := st.metrics.countStage s.name }, .error e)
    | (st, none) =>
      let st := st.say ("<==== " ++ s.banner ++ " done")
      ({ st with metrics := st.metrics.countStage s.name }, .ok .completed)

end Stage

namespace Pipeline

/-! ## Running a pipeline -/

/-- Runs stages in order, up to the first that ends early. -/
def runStages (registry : Registry) (loaded : KeySet ModuleKey) :
    List Stage → RunState → RunState × Option RunError
  | [], st => (st, none)
  | s :: rest, st =>
    match s.run registry loaded st with
    | (st, .ok _) => runStages registry loaded rest st
    | (st, .error e) => (st, some e)

/-- Runs the pipeline from a state; `now` is the time of day. -/
def run (p : Pipeline) (now : String) (st : RunState) : RunState × Option RunError :=
  runStages p.registry p.loaded p.stages { st with metrics := .start now }

end Pipeline

end ReleasePipeline
