/-
The program: what is done for a command line.

A run tells its end by a number: zero when all went well, one when what was asked for failed, two
when nobody could tell what was asked for. Checking a pipeline ends with one, too, if there is any
error in it, but not for a warning.

The time of day and the host are given from outside, so that what the program does is a function of
the words, the time and the host. `--publish` is no setting of a pipeline: it puts the variable
`SKIP_PUBLISH` into the first context, where `setup:skip_publish` finds it before the process is
asked.
-/
import ReleasePipeline.BuiltIn
import ReleasePipeline.CommandLine.Texts
import ReleasePipeline.Pipeline.Run
import ReleasePipeline.Recipe
import ReleasePipeline.Validation

set_option autoImplicit false

namespace ReleasePipeline.CommandLine

/-- How the program ended, and the host as it left it. -/
structure Ending where
  exitCode : Nat
  host : Host

namespace Ending

/-- All went well. -/
def success (h : Host) : Ending := { exitCode := 0, host := h }

/-- What was asked for failed; the messages are the chain of reasons. -/
def failure (h : Host) (messages : List String) : Ending :=
  { exitCode := 1, host := h.say (.stderr (Text.encode (errorReport messages))) }

end Ending

/-- The part of the program that speaks. -/
def source : String := "shipline"

/-! ## Running -/

/-- Switches publishing on whatever the surrounding process says. -/
def publishVariable : String := "SKIP_PUBLISH"

/-- The context in which a run starts. -/
def firstContext (o : RunOptions) : Context :=
  if o.publish then { environment := Environment.empty.set publishVariable "false" } else {}

/-- Writes metrics to a file. -/
def writeMetrics (m : Metrics) (p : Path) : HostM Unit := do
  HostM.createParentDuring .creatingMetricsDirectory p
  HostM.during (.creatingMetricsFile p) (HostM.change (·.write p (.ofText (m.toJson.pretty 0))))
  HostM.info source "Metrics JSON written"

/-- Shows metrics as it was asked for. -/
def showMetrics (o : RunOptions) (m : Metrics) : HostM Unit := do
  if o.printMetrics then modify (·.sayAll m.events)
  match o.metricsFile with
  | some p => writeMetrics m p
  | none => pure ()

/-- Runs a pipeline; `now` is the time of day. -/
def runPipeline (o : RunOptions) (now : String) (h : Host) : Ending :=
  let p := Recipe.detectPath h o.config
  match ExceptT.run (Recipe.load p) h with
  | (.error f, h) => .failure h f.messages
  | (.ok recipe, h) =>
    let loaded := Pipeline.ofDocument (.builtIn h.directoryName) recipe.document
    match loaded.error? with
    | some e => .failure h ["Failed to load pipeline: " ++ p.text, e.message]
    | none =>
      match loaded.value.run now { context := firstContext o, host := h } with
      | (st, some e) => .failure st.host [e.message]
      | (st, none) =>
        let h := st.host.sayAll [{ level := .info, source, message := "Pipeline completed" }]
        match ExceptT.run (showMetrics o st.metrics) h with
        | (.ok _, h) => .success h
        | (.error f, h) => .failure h f.messages

/-! ## Checking and listing -/

/-- Checks a pipeline. -/
def validatePipeline (config : Option Path) (h : Host) : Ending :=
  let p := Recipe.detectPath h config
  match ExceptT.run (Recipe.load p) h with
  | (.error f, h) => .failure h f.messages
  | (.ok recipe, h) =>
    let report := Pipeline.validate (.builtIn h.directoryName) recipe.document
    let event (level : LogLevel) (message : String) : LogEvent :=
      { level, source, message, fields := [("file", p.text)] }
    let h := h.sayAll (report.warnings.map (event .warn))
    if report.isOk then .success (h.sayAll [event .info "Pipeline validation passed"])
    else
      .failure (h.sayAll (report.errors.map (event .error)))
        ["Pipeline validation failed with " ++ toString report.errors.length ++ " error(s)"]

/-- A line of the list of modules. -/
def moduleLine (r : Registry) (key : ModuleKey) : String :=
  match r.dependencies key with
  | [] => "- " ++ key.display
  | keys => "- " ++ key.display ++ " (requires " ++ ModuleKey.displayAll keys ++ ")"

/-- The list of modules. -/
def moduleList (r : Registry) : String :=
  linesText ("Available modules:" :: r.known.map (moduleLine r))

/-! ## The whole -/

/-- Does what a command line asks for. -/
def execute (invocation : Invocation) (now : String) (h : Host) : Ending :=
  match invocation with
  | .run o => runPipeline o now h
  | .validate config => validatePipeline config h
  | .listModules =>
    .success (h.say (.stdout (Text.encode (moduleList (.builtIn h.directoryName)))))
  | .version => .success (h.say (.stdout (Text.encode versionText)))
  | .help t => .success (h.say (.stdout (Text.encode (helpText t))))

/-- Runs the program. -/
def run (words : List String) (now : String) (h : Host) : Ending :=
  match parse words with
  | .ok invocation => execute invocation now h
  | .error e => { exitCode := 2, host := h.say (.stderr (Text.encode e.message)) }

end ReleasePipeline.CommandLine
