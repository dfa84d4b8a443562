/-
What the words of a command line ask for.

There are three commands: `run`, `validate` and `list-modules`. Options belong to the command that
they follow; each may be given once, and a value is the next word or follows an equals sign. Help is
given as soon as it is asked for, even if something after it is wrong.

Each command reads its words from the first on and stops at the first mistake. An option with a
value takes two words or one, so a reader ends because no option hands on more words than there were
(`length_le_of_valueOf?`).
-/
import ReleasePipeline.Path

set_option autoImplicit false

namespace ReleasePipeline.CommandLine

/-- How a pipeline is to be run. -/
structure RunOptions where
  config : Option Path := none
  publish : Bool := false
  printMetrics : Bool := false
  metricsFile : Option Path := none
  deriving DecidableEq

/-- What help can be about. -/
inductive Topic where
  | program
  | run
  | validate
  | listModules
  | help
  deriving DecidableEq, Repr

/-- What is wrong with a command line. -/
inductive UsageError where
  | missingCommand
  | unknownCommand (word : String)
  | unexpected (word : String)
  | missingValue (option : String)
  | repeated (option : String)
  deriving DecidableEq, Repr

/-- What is asked for. -/
inductive Invocation where
  | run (options : RunOptions)
  | validate (config : Option Path)
  | listModules
  | version
  | help (topic : Topic)
  deriving DecidableEq

/-- A word, or why there is none. -/
abbrev Parsed := Except UsageError Invocation

/-- The word cannot be the value of an option. -/
def looksLikeOption (word : String) : Bool :=
  match word.toList with
  | '-' :: _ :: _ => true
  | _ => false

/-- What follows a text at the front of another. -/
def after? (front word : String) : Option String :=
  (front.toList.isPrefixOf? word.toList).map String.ofList

/-- The word asks for help. Letters that follow a letter are options of their own, which come
too late to matter. -/
def asksForHelp (word : String) : Bool := word = "--help" || (after? "-h" word).isSome

/-- The word asks for the version. -/
def asksForVersion (word : String) : Bool := word = "--version" || (after? "-V" word).isSome

/-- The value of an option that a word begins, and the words after it; nothing if the word does
not begin the option. -/
def valueOf? (option word : String) (rest : List String) :
    Option (Except UsageError (Path × List String)) :=
  if word = option then
    match rest with
    | value :: rest =>
      some (if value = "" ∨ looksLikeOption value then .error (.missingValue option)
        else .ok (⟨value⟩, rest))
    | [] => some (.error (.missingValue option))
  else
    (after? (option ++ "=") word).map fun value =>
      if value = "" then .error (.missingValue option) else .ok (⟨value⟩, rest)

/-- An option leaves no more words than came after it. -/
theorem length_le_of_valueOf? {option word : String} {rest rest' : List String} {p : Path}
    (h : valueOf? option word rest = some (.ok (p, rest'))) : rest'.length ≤ rest.length := by
  unfold valueOf? at h
  split at h
  · split at h
    · simp only [Option.some.injEq] at h
      split at h
      · cases h
      · cases h
        simp
    · cases h
  · simp only [Option.map_eq_some_iff] at h
    obtain ⟨value, _, h⟩ := h
    split at h
    · cases h
    · cases h
      exact Nat.le_refl _

/-- Nothing may follow the mark that ends the options. -/
def finish (result : Invocation) : List String → Parsed
  | [] => .ok result
  | word :: _ => .error (.unexpected word)

/-- Reads the options of the command that runs a pipeline. -/
def parseRun (o : RunOptions) (words : List String) : Parsed :=
  match words with
  | [] => .ok (.run o)
  | word :: rest =>
    if word = "--" then finish (.run o) rest
    else if asksForHelp word then .ok (.help .run)
    else if word = "--publish" then
      if o.publish then .error (.repeated word) else parseRun { o with publish := true } rest
    else if word = "--print-metrics" then
      if o.printMetrics then .error (.repeated word)
      else parseRun { o with printMetrics := true } rest
    else
      match h : valueOf? "--config" word rest with
      | some (.error e) => .error e
      | some (.ok (p, later)) =>
        have := length_le_of_valueOf? h
        if o.config.isSome then .error (.repeated "--config")
        else parseRun { o with config := some p } later
      | none =>
        match h : valueOf? "--metrics-json" word rest with
        | some (.error e) => .error e
        | some (.ok (p, later)) =>
          have := length_le_of_valueOf? h
          if o.metricsFile.isSome then .error (.repeated "--metrics-json")
          else parseRun { o with metricsFile := some p } later
        | none => .error (.unexpected word)
termination_by words.length
decreasing_by all_goals simp only [List.length_cons]; omega

/-- Reads the options of the command that checks a pipeline. -/
def parseValidate (config : Option Path) (words : List String) : Parsed :=
  match words with
  | [] => .ok (.validate config)
  | word :: rest =>
    if word = "--" then finish (.validate config) rest
    else if asksForHelp word then .ok (.help .validate)
    else
      match h : valueOf? "--config" word rest with
      | some (.error e) => .error e
      | some (.ok (p, later)) =>
        have := length_le_of_valueOf? h
        if config.isSome then .error (.repeated "--config") else parseValidate (some p) later
      | none => .error (.unexpected word)
termination_by words.length
decreasing_by all_goals simp only [List.length_cons]; omega

/-- Reads the options of the command that lists modules: there are none. -/
def parseListModules : List String → Parsed
  | [] => .ok .listModules
  | word :: rest =>
    if word = "--" then finish .listModules rest
    else if asksForHelp word then .ok (.help .listModules)
    else .error (.unexpected word)

/-- The command that a word names. -/
def topic? (word : String) : Option Topic :=
  match word with
  | "run" => some .run
  | "validate" => some .validate
  | "list-modules" => some .listModules
  | "help" => some .help
  | _ => none

/-- Reads what help is wanted about. Commands have no commands of their own. -/
def parseHelp : List String → Parsed
  | [] => .ok (.help .program)
  | word :: rest =>
    match topic? word, rest with
    | some t, [] => .ok (.help t)
    | some _, word :: _ => .error (.unknownCommand word)
    | none, _ => .error (.unknownCommand word)

/-- Reads a command line. -/
def parse : List String → Parsed
  | [] => .error .missingCommand
  | word :: rest =>
    if asksForHelp word then .ok (.help .program)
    else if asksForVersion word then .ok .version
    else
      match topic? word with
      | some .run => parseRun {} rest
      | some .validate => parseValidate none rest
      | some .listModules => parseListModules rest
      | some _ => parseHelp rest
      | none => .error (if looksLikeOption word then .unexpected word else .unknownCommand word)

end ReleasePipeline.CommandLine
