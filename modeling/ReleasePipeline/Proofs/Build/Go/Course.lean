/-
What a build does, as far as it gets.

A build has steps: the hooks of `before` that are commands, then its targets, then the hooks of
`after` (`steps`). What one step does, and how it can end, is said once (`Does`); for a target the
compiler is started only where the directory could be created, and if it does not end well nothing
is left of its output. A run goes through the steps in order, up to the first that does not end well
(`Goes`), so its actions are put together like the lists of their steps (`Follows.bind`). The proofs
about the code are all of this kind: an action follows a list of steps, and two actions one after
the other follow the two lists one after the other.

What is known of a run is what its steps did: the programs that were started are those of the steps
gone through (`Does.commands`, `AllWell.commands`), and the artifacts are those of the targets among
the steps that ended well. An artifact is recorded right after its build, so a run that is broken
off keeps what was built before; only the file of the build that failed is taken away
(`Does.isFile_location`).
-/
import ReleasePipeline.Proofs.Build.Go.Matrix
import ReleasePipeline.Proofs.Host.Endings

set_option autoImplicit false

namespace ReleasePipeline

/-- What is recorded in two goes is recorded in their order. -/
theorem Context.record_record (ctx : Context) (as bs : List Artifact) :
    (ctx.record as).record bs = ctx.record (as ++ bs) := by
  simp only [Context.record, Catalog.addAll, List.append_assoc]

/-- To record nothing changes nothing. -/
theorem Context.record_nil (ctx : Context) : ctx.record [] = ctx := by
  simp only [Context.record, Catalog.addAll, List.append_nil]

namespace Build.Go

open Effect

/-! ## Steps -/

/-- One of the things that a build does. -/
inductive Step where
  | hook (text : String) (c : Command)
  | target (b : TargetBuild)

/-- The program that a step runs. -/
def Step.command (s : Settings) (env : Environment) : Step → Command
  | .hook _ c => c
  | .target b => buildCommand s env b

/-- The build for a target, if the step is one. -/
def Step.build? : Step → Option TargetBuild
  | .hook _ _ => none
  | .target b => some b

/-- The steps of some hooks; those without words are none. -/
def hookSteps (env : Environment) (hooks : List String) : List Step :=
  hooks.filterMap fun text => (hookCommand? env text).map (.hook text)

/-- All steps: the hooks before, the targets, the hooks after. -/
def Settings.steps (s : Settings) (env : Environment) (builds : List TargetBuild) : List Step :=
  hookSteps env s.before ++ builds.map .target ++ hookSteps env s.after

section Steps

variable (s : Settings) (env : Environment)

/-- How a step ends, and what it leaves. -/
inductive Does (h : Host) : Step → Ending → Host → Prop
  | hook {text : String} {c : Command} {ending : Ending} {after : Host}
    (runs : h.Runs c ending after) : Does h (.hook text c) ending after
  /-- The directory for the output could not be created. -/
  | unready {b : TargetBuild} {f : Failure} {after : Host}
    (refused : ExceptT.run (HostM.createParent b.location) h = (.error f, after)) :
    Does h (.target b) .never after
  | built {b : TargetBuild} {ready after : Host}
    (created : ExceptT.run (HostM.createParent b.location) h = (.ok (), ready))
    (runs : ready.Runs (buildCommand s env b) .well after) :
    Does h (.target b) .well (after.say (.log ⟨.info, source, "Build finished", []⟩))
  | failed {b : TargetBuild} {ending : Ending} {ready after : Host}
    (created : ExceptT.run (HostM.createParent b.location) h = (.ok (), ready))
    (runs : ready.Runs (buildCommand s env b) ending after) (bad : ending ≠ .well) :
    Does h (.target b) ending { after with files := after.files.cleared b.location }

/-- Steps one after the other, all of which end well. -/
inductive AllWell : Host → List Step → Host → Prop
  | nil {h : Host} : AllWell h [] h
  | cons {h middle after : Host} {step : Step} {rest : List Step}
    (does : Does s env h step .well middle) (others : AllWell middle rest after) :
    AllWell h (step :: rest) after

/-- The artifacts of the targets among some steps. -/
def artifacts (steps : List Step) : List Artifact :=
  (steps.filterMap Step.build?).map fun b => b.toArtifact s.id

/-- Steps are gone through in order, up to the first that does not end well. -/
inductive Goes (ctx : Context) (h : Host) (steps : List Step) :
    Except Failure Unit → Context × Host → Prop
  | finished {after : Host} (well : AllWell s env h steps after) :
    Goes ctx h steps (.ok ()) (ctx.record (artifacts s steps), after)
  | stopped {well later : List Step} {step : Step} {ending : Ending} {f : Failure}
    {reached after : Host} (split : steps = well ++ step :: later)
    (before : AllWell s env h well reached) (does : Does s env reached step ending after)
    (bad : ending ≠ .well) :
    Goes ctx h steps (.error f) (ctx.record (artifacts s well), after)

end Steps

variable {s : Settings} {env : Environment} {ctx : Context} {h after : Host} {step : Step}
  {ending : Ending} {steps more : List Step} {b : TargetBuild}

/-! ## What a step leaves -/

/-- A step starts its own program, or none. -/
theorem Does.commands (hdoes : Does s env h step ending after) :
    after.commands = h.commands ++ ending.started (step.command s env) := by
  -- a hook, or a target in one of three ways; the directory is created without any program
  cases hdoes with
  | hook runs => exact runs.commands
  | unready refused =>
    rw [HostM.commands_of_run_createParent refused]
    exact (List.append_nil _).symm
  | built created runs =>
    rw [← HostM.commands_of_run_createParent created]
    exact runs.commands
  | failed created runs _ =>
    rw [← HostM.commands_of_run_createParent created]
    exact runs.commands

/-- Nothing is left at the place of a target whose build did not end well. -/
theorem Does.isFile_location (hdoes : Does s env h (.target b) ending after)
    (hbad : ending ≠ .well) : after.files.isFile b.location = false := by
  -- no directory, and so no file in it; or the file was removed
  cases hdoes with
  | unready refused => exact HostM.isFile_of_run_createParent_error refused
  | built _ _ => exact absurd rfl hbad
  | failed _ _ _ => exact Files.isFile_cleared _ _

/-- Two stretches of steps that end well make one. -/
theorem AllWell.append {middle : Host} (hfirst : AllWell s env h steps middle)
    (hmore : AllWell s env middle more after) : AllWell s env h (steps ++ more) after := by
  induction hfirst with
  | nil => exact hmore
  | cons does _ ih => exact .cons does (ih hmore)

/-- Steps that end well start all their programs. -/
theorem AllWell.commands (hwell : AllWell s env h steps after) :
    after.commands = h.commands ++ steps.map (·.command s env) := by
  induction hwell with
  | nil => exact (List.append_nil _).symm
  | @cons h middle after step rest does _ ih =>
    rw [ih, does.commands, List.map_cons, List.append_assoc]
    rfl

/-! ## What a run does -/

/-- The action goes through the steps. -/
def Follows (s : Settings) (env : Environment) (steps : List Step) (action : RunM Unit) : Prop :=
  ∀ ctx h, Goes s env ctx h steps (ExceptT.run action (ctx, h)).1 (ExceptT.run action (ctx, h)).2

/-- The artifacts of two stretches of steps. -/
theorem artifacts_append (s : Settings) (steps more : List Step) :
    artifacts s (steps ++ more) = artifacts s steps ++ artifacts s more := by
  rw [artifacts, List.filterMap_append, List.map_append]
  rfl

/-- Without steps there is nothing to record. -/
theorem artifacts_nil (s : Settings) : artifacts s [] = [] := rfl

/-- Doing nothing goes through no steps. -/
theorem follows_pure : Follows s env [] (pure ()) := by
  intro ctx h
  have hgoes : Goes s env ctx h [] (.ok ()) (ctx.record (artifacts s []), h) := .finished .nil
  rwa [artifacts_nil, Context.record_nil] at hgoes

/-- Of two actions one after the other, the second starts only if all steps of the first end well.
-/
theorem Follows.bind {action : RunM Unit} {next : Unit → RunM Unit}
    (hfirst : Follows s env steps action) (hnext : Follows s env more (next ())) :
    Follows s env (steps ++ more) (action >>= next) := by
  intro ctx h
  have hgoes := hfirst ctx h
  rw [run_bind]
  cases hrun : ExceptT.run action (ctx, h) with
  | mk r reached =>
    rw [hrun] at hgoes
    -- the first action went through all its steps, or it stopped at one of them and the second was
    -- not begun
    cases hgoes with
    | @finished middle well =>
      have hrest := hnext (ctx.record (artifacts s steps)) middle
      dsimp only
      generalize ExceptT.run (next ()) _ = left at hrest ⊢
      obtain ⟨r, last⟩ := left
      -- then the steps of the second one count from where the first one ended
      cases hrest with
      | finished others =>
        rw [Context.record_record, ← artifacts_append]
        exact .finished (well.append others)
      | @stopped begun later step ending f reached last split before does bad =>
        rw [Context.record_record, ← artifacts_append]
        have hsplit : steps ++ more = (steps ++ begun) ++ step :: later := by
          rw [split, List.append_assoc]
        exact .stopped hsplit (well.append before) does bad
    | @stopped begun later step ending f reached last split before does bad =>
      have hsplit : steps ++ more = begun ++ step :: (later ++ more) := by
        rw [split, List.append_assoc, List.cons_append]
      exact .stopped hsplit before does bad

/-! ### Hooks -/

/-- A step by itself that ends well. -/
theorem goes_of_well (ctx : Context) (hdoes : Does s env h step .well after) :
    Goes s env ctx h [step] (.ok ()) (ctx.record (artifacts s [step]), after) :=
  .finished (.cons hdoes .nil)

/-- A step by itself that does not; nothing is recorded for it. -/
theorem goes_of_not_well (ctx : Context) (f : Failure) (hdoes : Does s env h step ending after)
    (hbad : ending ≠ .well) : Goes s env ctx h [step] (.error f) (ctx, after) := by
  have hgoes : Goes s env ctx h [step] (.error f) (ctx.record (artifacts s []), after) :=
    .stopped (List.nil_append _).symm .nil hdoes hbad
  rwa [artifacts_nil, Context.record_nil] at hgoes

/-- A hook that is a command is one step, and it is no target. -/
theorem follows_hook (text : String) (c : Command) :
    Follows s env [.hook text c]
      (RunM.host (HostM.during (.runningHook text) (HostM.runProgram c))) := by
  intro ctx h
  obtain ⟨result, ending, after, hrun, hresult, hruns⟩ :=
    (HostM.ends_runProgram h c).during (.runningHook text)
  have hdoes : Does s env h (.hook text c) ending after := .hook hruns
  rw [RunM.run_host, hrun]
  -- the action succeeds exactly if the program ended well
  by_cases hwell : ending = .well
  · subst hwell
    rw [hresult.mpr rfl]
    have hgoes := goes_of_well ctx hdoes
    rwa [show artifacts s [.hook text c] = [] from rfl, Context.record_nil] at hgoes
  · cases result with
    | ok u => exact absurd (hresult.mp rfl) hwell
    | error f => exact goes_of_not_well ctx f hdoes hwell

/-- Hooks one after the other; the blank ones are passed over, in the code as in the list of steps.
-/
theorem follows_runHooks (s : Settings) (env : Environment) (hooks : List String) :
    Follows s env (hookSteps env hooks) (RunM.host (runHooks env hooks)) := by
  induction hooks with
  | nil => exact follows_pure
  | cons text rest ih =>
    unfold runHooks hookSteps
    cases hcommand : hookCommand? env text with
    | none =>
      rw [List.filterMap_cons_none (by rw [hcommand]; rfl)]
      exact ih
    | some c =>
      rw [List.filterMap_cons_some (by rw [hcommand]; rfl), RunM.host_bind]
      exact (follows_hook text c).bind ih

/-! ### Targets -/

/-- The output is taken away if it is there, and if it cannot be, that is no failure of its own. -/
theorem run_discard (p : Path) (h : Host) :
    ExceptT.run (discard p) h = (.ok (), { h with files := h.files.cleared p }) := by
  unfold discard
  change (Except.ok (), _) = _
  dsimp only
  rw [Files.cleared]
  cases h.files.remove p with
  | ok files => rfl
  | error e => rfl

/-- A build for a target ends well, or what there is of its output is taken away. -/
theorem run_build (s : Settings) (env : Environment) (b : TargetBuild) (h : Host) :
    ∃ result left, ExceptT.run (build s env b) h = (result, left) ∧
      ((result = .ok () ∧
          Does s env h (.target b) .well (left.say (.log ⟨.info, source, "Build finished", []⟩))) ∨
        ∃ f ending, result = .error f ∧ ending ≠ .well ∧ Does s env h (.target b) ending left) := by
  rw [build, run_bind]
  -- three things can happen: no directory, a program that ends well, or one that does not
  cases hcreate : ExceptT.run (HostM.createParent b.location) h with
  | mk r ready =>
    cases r with
    | error f =>
      exact ⟨.error f, ready, rfl, .inr ⟨f, .never, rfl, nofun, .unready hcreate⟩⟩
    | ok u =>
      obtain ⟨result, ending, after, hrun, hresult, hruns⟩ :=
        HostM.ends_runProgram ready (buildCommand s env b)
      dsimp only
      rw [run_tryCatch, hrun]
      cases result with
      | ok u =>
        obtain rfl : ending = .well := hresult.mp rfl
        exact ⟨.ok u, after, rfl, .inl ⟨rfl, .built hcreate hruns⟩⟩
      | error f =>
        have hbad : ending ≠ .well := fun hwell => nomatch hresult.mpr hwell
        refine ⟨.error (.building b.target f), _, ?_,
          .inr ⟨_, ending, rfl, hbad, .failed hcreate hruns hbad⟩⟩
        dsimp only
        rw [run_bind, run_discard]
        rfl

/-- Builds for one target, and records what was built. -/
def buildAndRecord (s : Settings) (env : Environment) (b : TargetBuild) : RunM Unit := do
  RunM.host (build s env b)
  RunM.host (HostM.info source "Build finished")
  RunM.update fun ctx => ctx.record [b.toArtifact s.id]

/-- The builds are gone through one by one, and each is recorded before the next is begun. -/
theorem buildAll_cons (s : Settings) (env : Environment) (b : TargetBuild)
    (rest : List TargetBuild) :
    buildAll s env (b :: rest) = buildAndRecord s env b >>= fun _ => buildAll s env rest := by
  rw [buildAll, buildAndRecord]
  simp only [bind_assoc]

/-- A target is one step. -/
theorem follows_buildAndRecord (s : Settings) (env : Environment) (b : TargetBuild) :
    Follows s env [.target b] (buildAndRecord s env b) := by
  intro ctx h
  obtain ⟨result, left, hrun, ⟨rfl, hdoes⟩ | ⟨f, ending, rfl, hbad, hdoes⟩⟩ := run_build s env b h
  · rw [buildAndRecord, run_bind, RunM.run_host, hrun]
    exact goes_of_well ctx hdoes
  · rw [buildAndRecord, run_bind, RunM.run_host, hrun]
    exact goes_of_not_well ctx f hdoes hbad

/-- All targets, in their order. -/
theorem follows_buildAll (s : Settings) (env : Environment) (builds : List TargetBuild) :
    Follows s env (builds.map .target) (buildAll s env builds) := by
  induction builds with
  | nil => exact follows_pure
  | cons b rest ih =>
    rw [buildAll_cons]
    exact (follows_buildAndRecord s env b).bind ih

/-! ### Runs -/

/-- A hook is no command exactly if it is blank. -/
theorem hookCommand?_eq_none_iff (env : Environment) (hook : String) :
    hookCommand? env hook = none ↔ ∀ c ∈ hook.toList, Text.isBlank c = true := by
  rw [← Text.words_eq_nil_iff, hookCommand?]
  cases Text.words hook.toList with
  | nil => exact iff_of_true rfl rfl
  | cons program arguments => exact iff_of_false nofun nofun

/-- If the builds cannot be worked out, the run is over before anything was done. -/
theorem run_module_of_error {f : Failure} (hbuilds : s.builds ctx = .error f) (h : Host) :
    (module s).run ctx h = ⟨.error f, ctx, h⟩ := by
  rw [module, Module.run_ofSteps, run, RunM.run_context_bind, hbuilds]
  rfl

/-- If all builds can be worked out, the run goes through all steps. -/
theorem goes_run {builds : List TargetBuild} (hbuilds : s.builds ctx = .ok builds) (h : Host) :
    let done := (module s).run ctx h
    Goes s ctx.environment ctx h (s.steps ctx.environment builds) done.result
      (done.context, done.host) := by
  -- the three parts of the run, put together as the list of steps is
  have hfollows : Follows s ctx.environment (s.steps ctx.environment builds) (do
      RunM.host (runHooks ctx.environment s.before)
      buildAll s ctx.environment builds
      RunM.host (runHooks ctx.environment s.after)) := by
    rw [Settings.steps, List.append_assoc]
    exact (follows_runHooks s ctx.environment s.before).bind
      ((follows_buildAll s ctx.environment builds).bind
        (follows_runHooks s ctx.environment s.after))
  intro done
  have hrun : done = _ := Module.run_ofSteps (run s) ctx h
  rw [hrun, run, RunM.run_context_bind, hbuilds]
  exact hfollows ctx h

/-- **A build records what was built.** First all builds are worked out, and if that fails, for the
flags, the directory or the output of some target, nothing is done at all. Otherwise there is a step
for each hook before that is not blank, one for each target, and one for each hook after that is not
blank, in this order. How far a run gets is up to the programs. The steps before the one at which it
stops have all ended well. The programs that were started are theirs and, if that one was started,
the one of the step at which it stops, so they are the first of all; and the artifacts that were
added to the catalog are those of the targets among the steps that ended well. If the run stops at a
target, be it at its directory, because its program cannot be started, or because that ends badly,
there is no file where the output would be. -/
theorem run_records_what_was_built (s : Settings) (ctx : Context) (h : Host) :
    let done := (module s).run ctx h
    let env := ctx.environment
    (∀ hook, hookCommand? env hook = none ↔ ∀ c ∈ hook.toList, Text.isBlank c = true) ∧
    ((∃ f, s.builds ctx = .error f) ↔
      ∃ t ∈ s.targets, ∃ text ∈ [s.linkerFlags, directoryTemplate, s.output], ∃ e,
        (targetScope ctx t).render "build:go" text = .error e) ∧
    (∀ f, s.builds ctx = .error f → done = ⟨.error f, ctx, h⟩) ∧
    ∀ builds, s.builds ctx = .ok builds →
      let steps := s.steps env builds
      builds.map TargetBuild.target = s.targets ∧
      ∃ well later started reached,
        steps = well ++ later ∧
        AllWell s env h well reached ∧
        done.host.commands = h.commands ++ started ∧
        started <+: steps.map (·.command s env) ∧
        done.context = { ctx with catalog := ⟨ctx.catalog.artifacts ++
          (well.filterMap Step.build?).map fun b =>
            { id := s.id, filename := b.output, location := b.location, target := b.target }⟩ } ∧
        match later with
        | [] => done.result = .ok () ∧ done.host = reached ∧ started = steps.map (·.command s env)
        | step :: _ => ∃ f ending, done.result = .error f ∧ ending ≠ .well ∧
          Does s env reached step ending done.host ∧
          started = well.map (·.command s env) ++ ending.started (step.command s env) ∧
          ∀ b, step = .target b → done.host.files.isFile b.location = false := by
  intro done env
  refine ⟨hookCommand?_eq_none_iff env, ?_, fun f hbuilds => run_module_of_error hbuilds h,
    fun builds hbuilds => ⟨map_target_of_resolveAll hbuilds, ?_⟩⟩
  · rw [Settings.builds, exists_resolveAll_eq_error_iff]
    exact exists_congr fun t => and_congr_right fun _ => exists_faults_iff
  have hgoes : Goes s env ctx h (s.steps env builds) done.result (done.context, done.host) :=
    goes_run hbuilds h
  generalize done = done at hgoes ⊢
  obtain ⟨result, context, host⟩ := done
  -- all steps were gone through, or there is one at which the run stopped
  cases hgoes with
  | finished hwell =>
    exact ⟨s.steps env builds, [], (s.steps env builds).map (·.command s env), host,
      (List.append_nil _).symm, hwell, hwell.commands, List.prefix_rfl, by rw [artifacts]; rfl,
      rfl, rfl, rfl⟩
  | @stopped well later step ending f reached _ hsplit hwell hdoes hbad =>
    have hcommands := hdoes.commands
    rw [hwell.commands, List.append_assoc] at hcommands
    -- the programs of the steps before that one, and its own if it was started: a beginning of all
    have hstarted : well.map (·.command s env) ++ ending.started (step.command s env)
        <+: (s.steps env builds).map (·.command s env) := by
      rw [hsplit, List.map_append, List.map_cons, List.prefix_append_right_inj]
      exact ending.started_isPrefix _ _
    refine ⟨well, step :: later, _, reached, hsplit, hwell, hcommands, hstarted, rfl, f, ending,
      rfl, hbad, hdoes, rfl, ?_⟩
    rintro b rfl
    exact hdoes.isFile_location hbad

/-- A build with hooks, one of which is blank, for a system and an architecture that has two
revisions. -/
def hookedBuild : Settings where
  before := [" \t", "make deps"]
  after := ["make clean"]
  systems := ["linux"]
  architectures := ["arm"]
  revisions := [6, 7]
  linkerFlags := ""
  output := "demo"

/-- Each program writes the file that its third word names. The third one that is started breaks
off after that. -/
def breakingHost : Host where
  programs := fun earlier c files => .ok
    { status := .exited (if earlier.length = 2 then 1 else 0)
      files := ((files.write ⟨c.arguments.getD 2 "log"⟩ (.bytes .empty)).toOption).getD files }

/-- The builds for the two revisions. -/
def hookedBuilds : List TargetBuild :=
  [⟨{ os := "linux", arch := "arm", armVersion := some 6 }, "", ⟨"dist/demo-linux-armv6"⟩, "demo"⟩,
    ⟨{ os := "linux", arch := "arm", armVersion := some 7 }, "", ⟨"dist/demo-linux-armv7"⟩, "demo"⟩]

/-- The hook and the first build end well, and the second build does not. Its artifact is not
recorded, its output is taken away, and the last hook is not run. -/
theorem hookedBuild_records :
    let done := (module hookedBuild).run withScript breakingHost
    hookedBuild.builds withScript = .ok hookedBuilds ∧
      (∃ started, done.host.commands = started ∧
        started <+: (hookedBuild.steps withScript.environment hookedBuilds).map
          (·.command hookedBuild withScript.environment)) ∧
      done.host.commands.map (·.program) = ["make", "go", "go"] ∧
      done.context.catalog.artifacts.map (·.key) = ["noarch", "linux-armv6"] ∧
      hookedBuilds.map (done.host.files.isFile ·.location) = [true, false] := by
  dsimp only
  have hbuilds : hookedBuild.builds withScript = .ok hookedBuilds := by decide +kernel
  obtain ⟨-, -, -, hrun⟩ := run_records_what_was_built hookedBuild withScript breakingHost
  obtain ⟨-, _, _, started, _, -, -, hcommands, hstarted, -⟩ := hrun hookedBuilds hbuilds
  exact ⟨hbuilds, ⟨started, hcommands, hstarted⟩, by decide +kernel, by decide +kernel,
    by decide +kernel⟩

end Build.Go

end ReleasePipeline
