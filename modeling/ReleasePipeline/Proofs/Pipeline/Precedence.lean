/-
In which order modules and their dependencies are executed.

A module is executed only if all it depends on is loaded, and loaded means: there is a module
with that key somewhere in the pipeline. Where it is does not matter to the check. What is
executed before what is decided by the order of the pipeline alone, stage by stage and within
a stage in the order of its list, at the end of which the default modules are. So a
dependency has been executed before its dependent exactly when it stands before it in that
order, and nothing makes a document list them that way round (`dependency_executed_after`).

What holds for all documents is `dependencies_executed_or_later`.
-/
import ReleasePipeline.Proofs.Pipeline.Growth
import ReleasePipeline.Proofs.Pipeline.Schedule

set_option autoImplicit false

namespace ReleasePipeline

namespace Pipeline

/-! ## The order of a run is that of the pipeline

Of the three stages that a document is loaded into, only the last can be skipped, and then nothing
comes after it. So there is no gap in what a run goes through. -/

/-- When only the last stage can be skipped, the schedule is a prefix of all modules in
order. -/
theorem Listed.isPrefix_keys {stages : List Stage} {ctx : Context} {ts : List Turn}
    (h : Listed stages ctx ts)
    (hskip : ∀ s ∈ stages.dropLast, ∀ ctx, s.shouldSkip ctx = false) :
    (ts.map fun t => t.module.key) <+: stages.flatMap Stage.keys := by
  induction h with
  | nil => exact List.prefix_rfl
  | @skip s rest ctx ts skipped later ih =>
    -- a stage that is skipped can only be the last one
    cases rest with
    | nil =>
      cases later
      exact List.nil_prefix
    | cons s' rest =>
      have hs := hskip s List.mem_cons_self ctx
      rw [skipped] at hs
      cases hs
  | @enter s rest ctx here ts entered hstages hmodules threaded later ih =>
    have hrest : ∀ s ∈ rest.dropLast, ∀ ctx, s.shouldSkip ctx = false := by
      intro s' hs'
      cases rest with
      | nil => cases hs'
      | cons s'' rest => exact hskip s' (List.mem_cons_of_mem s hs')
    have hhere : (here.map fun t => t.module.key) = s.keys := by
      rw [Stage.keys, ← hmodules, List.map_map]
      rfl
    rw [List.map_append, List.flatMap_cons, hhere]
    exact (List.prefix_append_right_inj s.keys).mpr (ih hrest)

/-- Of a loaded pipeline, only the last stage can be skipped. -/
theorem isPrefix_keys_schedule (registry : Registry) (document : Yaml.Value) (now : String)
    (st : RunState) :
    (((ofDocument registry document).value.schedule now st).map fun t => t.module.key)
      <+: (ofDocument registry document).value.keys := by
  refine (listed_schedule _ now st).isPrefix_keys ?_
  obtain ⟨setup, build, publish, hstages, -, -, -, hsetup, hbuild, -⟩ :=
    stages_ofDocument registry document
  rw [hstages]
  intro s hs
  simp only [List.dropLast, List.mem_cons, List.not_mem_nil, or_false] at hs
  rcases hs with rfl | rfl
  · exact hsetup
  · exact hbuild

/-- What a scheduled module misses are those of its dependencies that no stage has. -/
theorem missing_of_mem_schedule {registry : Registry} {document : Yaml.Value} {now : String}
    {st : RunState} {t : Turn} (ht : t ∈ (ofDocument registry document).value.schedule now st) :
    t.missing registry (ofDocument registry document).value.loaded =
      (registry.dependencies t.module.key).filter
        fun d => decide (d ∉ (ofDocument registry document).value.keys) := by
  have hstage := ((listed_schedule _ now st).mem ht).1
  rw [Turn.missing, source_ofDocument hstage]
  -- a key is loaded if and only if a module of some stage has it
  refine List.filter_congr fun d _ => ?_
  rw [Bool.eq_iff_iff, decide_eq_true_iff, ← contains_loaded_ofDocument, Bool.not_eq_true,
    Bool.not_eq_true']

/-- What a run executes, in order, are the first modules of the pipeline. -/
theorem isPrefix_keys_of_ends {registry : Registry} {document : Yaml.Value} {now : String}
    {st : RunState} {done : List Turn} {e : Option RunError}
    (h : Turn.Ends registry (ofDocument registry document).value.loaded
      ((ofDocument registry document).value.schedule now st) done e) :
    (done.map fun t => t.module.key) <+: (ofDocument registry document).value.keys :=
  (h.isPrefix.map _).trans (isPrefix_keys_schedule registry document now st)

/-- A module is executed after those that stand before it and no others, all of which have
passed, and everything that it depends on is in the pipeline. -/
theorem standing_before_of_executed {registry : Registry} {document : Yaml.Value} {now : String}
    {st : RunState} {before : List Turn} {t : Turn} {rest : List Turn} {e : Option RunError}
    (h : Turn.Ends registry (ofDocument registry document).value.loaded
      ((ofDocument registry document).value.schedule now st) (before ++ t :: rest) e) :
    ∃ later, (ofDocument registry document).value.keys
        = (before.map fun x => x.module.key) ++ t.module.key :: later ∧
      (∀ x ∈ before, x.Passes registry (ofDocument registry document).value.loaded) ∧
      ∀ d ∈ registry.dependencies t.module.key, d ∈ (ofDocument registry document).value.keys := by
  obtain ⟨hpassed, hmissing⟩ := h.of_executed rfl
  obtain ⟨unexecuted, hkeys⟩ := isPrefix_keys_of_ends h
  have ht : t ∈ (ofDocument registry document).value.schedule now st :=
    h.isPrefix.subset (List.mem_append_right before List.mem_cons_self)
  -- later are the modules that are executed after it, and those that the run does not come to
  refine ⟨(rest.map fun x => x.module.key) ++ unexecuted, ?_, hpassed, fun d hd => ?_⟩
  · rw [← hkeys, List.map_append, List.map_cons, List.append_assoc, List.cons_append]
  · rw [missing_of_mem_schedule ht, List.filter_eq_nil_iff] at hmissing
    simpa only [decide_eq_true_iff, not_not] using hmissing d hd

/-- Where everything before a module passes and a key it depends on is nowhere in the
pipeline, a run ends there. -/
theorem refused_of_lacking {registry : Registry} {document : Yaml.Value} {now : String}
    {st : RunState} {before : List Turn} {t : Turn} {rest : List Turn} {d : ModuleKey}
    (hsplit : (ofDocument registry document).value.schedule now st = before ++ t :: rest)
    (hpassed : ∀ x ∈ before, x.Passes registry (ofDocument registry document).value.loaded)
    (hd : d ∈ registry.dependencies t.module.key)
    (hnot : d ∉ (ofDocument registry document).value.keys) :
    Turn.Ends registry (ofDocument registry document).value.loaded
      ((ofDocument registry document).value.schedule now st) before
      (some (.missingDependencies t.stage.name t.module.kind
        ((registry.dependencies t.module.key).filter
          fun d => decide (d ∉ (ofDocument registry document).value.keys)))) := by
  have ht : t ∈ (ofDocument registry document).value.schedule now st := by
    rw [hsplit]
    exact List.mem_append_right before List.mem_cons_self
  have hlacks : t.missing registry (ofDocument registry document).value.loaded ≠ [] := by
    rw [missing_of_mem_schedule ht]
    exact List.ne_nil_of_mem (List.mem_filter.mpr ⟨hd, decide_eq_true hnot⟩)
  rw [← missing_of_mem_schedule ht, hsplit]
  exact .refused hpassed hlacks

/-- A run of a loaded pipeline that starts without a record of earlier executions. -/
theorem run_ofDocument_ends (registry : Registry) (document : Yaml.Value) (now : String)
    (ctx : Context) (host : Host) :
    ∃ done, Turn.Ends registry (ofDocument registry document).value.loaded
        ((ofDocument registry document).value.schedule now { context := ctx, host }) done
        ((ofDocument registry document).value.run now { context := ctx, host }).2 ∧
      ((ofDocument registry document).value.run now { context := ctx, host }).1.executed
        = done.map Turn.record := by
  obtain ⟨done, hends, -, hexecuted⟩ :=
    (ofDocument registry document).value.run_ends now { context := ctx, host }
  rw [registry_ofDocument] at hends
  exact ⟨done, hends, hexecuted⟩

/-! ## Dependencies

A module that depends on its own key is a dependency that is met, since it is loaded. The statement
therefore counts the module itself among those that may stand later. -/

/-- **Dependencies are executed before, or stand later.** Whenever a module is executed in a
run of a loaded pipeline, what was executed before it are the modules that stand before it in
the pipeline, all of them successfully; and each key it depends on is the key of one of them,
or else of the module itself or one that stands after it. If the turn of a module comes and a
key it depends on is nowhere in the pipeline, the run ends with the missing keys and the
module is not executed. -/
theorem dependencies_executed_or_later (registry : Registry) (document : Yaml.Value)
    (now : String) (ctx : Context) (host : Host) :
    (∀ before e after,
      ((ofDocument registry document).value.run now { context := ctx, host }).1.executed
        = before ++ e :: after →
      ∃ later, (ofDocument registry document).value.keys
          = before.map Execution.key ++ e.key :: later ∧
        (∀ x ∈ before, x.succeeded = true) ∧
        ∀ d ∈ registry.dependencies e.key,
          d ∈ before.map Execution.key ∨ d ∈ e.key :: later) ∧
    (∀ before t after,
      (ofDocument registry document).value.schedule now { context := ctx, host }
        = before ++ t :: after →
      (∀ x ∈ before, x.Passes registry (ofDocument registry document).value.loaded) →
      (∃ d ∈ registry.dependencies t.module.key,
        d ∉ (ofDocument registry document).value.keys) →
      ((ofDocument registry document).value.run now { context := ctx, host }).2
          = some (.missingDependencies t.stage.name t.module.kind
            ((registry.dependencies t.module.key).filter
              fun d => decide (d ∉ (ofDocument registry document).value.keys))) ∧
        ((ofDocument registry document).value.run now { context := ctx, host }).1.executed
          = before.map Turn.record) := by
  obtain ⟨done, hends, hexecuted⟩ := run_ofDocument_ends registry document now ctx host
  constructor
  · intro before e after hsplit
    -- the records are those of the turns, so a cut between records is a cut between turns
    rw [hexecuted] at hsplit
    obtain ⟨earlier, more, rfl, rfl, hmore⟩ := List.map_eq_append_iff.mp hsplit
    obtain ⟨t, rest, rfl, rfl, -⟩ := List.map_eq_cons_iff.mp hmore
    obtain ⟨later, hkeys, hpassed, hdeps⟩ := standing_before_of_executed hends
    have hearlier : (earlier.map Turn.record).map Execution.key
        = earlier.map fun x => x.module.key := List.map_map
    rw [hearlier]
    refine ⟨later, hkeys, ?_, fun d hd => ?_⟩
    · rw [List.forall_mem_map]
      exact fun x hx => (hpassed x hx).succeeded_record
    · have hin := hdeps d hd
      rw [hkeys] at hin
      exact List.mem_append.mp hin
  · rintro before t after hsplit hpassed ⟨d, hd, hnot⟩
    -- how a run ends is determined, and this is one way in which it can
    obtain ⟨rfl, herror⟩ := hends.unique (refused_of_lacking hsplit hpassed hd hnot)
    exact ⟨herror, hexecuted⟩

/-! ## A dependent before its dependency -/

/-- A module that does nothing. -/
def idleModule : Module where
  run ctx host := { result := .ok (), context := ctx, host }

/-- Two modules of the setup stage, of which `late` depends on `base`. -/
def dependentPair : Registry :=
  let r : Registry := {}
  let r := r.register "setup" "late"
    { create := fun _ => .ok idleModule, dependencies := [⟨"setup", "base"⟩] }
  r.register "setup" "base" { create := fun _ => .ok idleModule }

/-- A document that lists the dependent first. -/
def dependentFirst : Yaml.Value :=
  .map [(.text "setups",
    .list [.map [(.text "type", .text "late")], .map [(.text "type", .text "base")]])]

/-- That every dependency of an executed module has been executed before it does not hold of
all documents that load: of `dependentFirst` the dependent is executed first, although the
module it depends on is yet to come. -/
theorem dependency_executed_after :
    ¬ ∀ (registry : Registry) (document : Yaml.Value) (now : String) (ctx : Context) (host : Host),
      (ofDocument registry document).error? = none →
      ∀ before e after,
        ((ofDocument registry document).value.run now { context := ctx, host }).1.executed
          = before ++ e :: after →
        ∀ d ∈ registry.dependencies e.key,
          ∃ x ∈ before, x.key = d ∧ x.succeeded = true := by
  intro h
  have hfirst := h dependentPair dependentFirst "" {} {} rfl [] _ _ rfl ⟨"setup", "base"⟩
    List.mem_cons_self
  obtain ⟨x, hx, -⟩ := hfirst
  cases hx

end Pipeline

end ReleasePipeline
