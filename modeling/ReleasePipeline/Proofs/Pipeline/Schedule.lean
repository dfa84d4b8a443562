/-
The schedule of a run, and how a run goes through it.

The schedule is what a run would do if nothing stopped it: every module of every stage that
is not skipped, each with the state in which its turn comes. It is computed without looking
at results or dependencies, so nothing of the two early exits of a run is in it. What the
early exits do is said apart, by `Ends`: a run goes through its schedule up to the first
module that is refused or fails.

The work is in `executeAll_ends` and `runStages_ends`, one induction for each of the two
loops of a run. The contexts are not part of `Ends`; `Listed` says of the schedule alone
that each module is given the context its predecessor left, and that a stage is skipped on
the context that everything before it left.
-/
import ReleasePipeline.Pipeline.Run

set_option autoImplicit false

namespace ReleasePipeline

namespace RunState

/-- Output leaves the context of a run alone. -/
@[simp] theorem context_say (st : RunState) (message : String) :
    (st.say message).context = st.context := rfl

end RunState

/-! ## Turns -/

/-- The turn of a module in a run: the stage that lists it, and the state in which its turn
comes. -/
structure Turn where
  stage : Stage
  module : StageModule
  state : RunState

namespace Turn

/-- What the module does with the context it is given. It has been announced by then, which
is all that the host has seen since the state. -/
def outcome (t : Turn) : ModuleOutcome :=
  t.module.module.run t.state.context (t.state.say ("----> " ++ t.module.kind)).host

/-- The state after the module has been executed, whether it succeeded or not. -/
def after (t : Turn) : RunState := (t.stage.execute t.module t.state).1

/-- What is recorded of the execution. -/
def record (t : Turn) : Execution where
  stage := t.stage.name
  kind := t.module.kind
  key := t.module.key
  given := t.state.context
  left := t.outcome.context
  succeeded := t.outcome.result.isOk

/-- The keys that the module depends on and that are not loaded. -/
def missing (registry : Registry) (loaded : KeySet ModuleKey) (t : Turn) : List ModuleKey :=
  (t.stage.source registry).missing t.module.key loaded

/-- Nothing is missing and the module succeeds. -/
def Passes (registry : Registry) (loaded : KeySet ModuleKey) (t : Turn) : Prop :=
  t.missing registry loaded = [] ∧ t.outcome.result = .ok ()

/-- The context of a run is the one that the module left. -/
@[simp] theorem context_after (t : Turn) : t.after.context = t.outcome.context := by
  rw [after, Stage.execute]
  dsimp only
  split <;> rfl

/-- An execution adds its record to those before it and changes none of them. -/
@[simp] theorem executed_after (t : Turn) :
    t.after.executed = t.state.executed ++ [t.record] := by
  cases h : t.outcome.result with
  | ok u =>
    rw [outcome] at h
    simp only [after, Stage.execute, record, outcome, RunState.context_say, h]
    rfl
  | error f =>
    rw [outcome] at h
    simp only [after, Stage.execute, record, outcome, RunState.context_say, h]
    rfl

/-- A module that passes is recorded as successful. -/
theorem Passes.succeeded_record {registry : Registry} {loaded : KeySet ModuleKey} {t : Turn}
    (h : t.Passes registry loaded) : t.record.succeeded = true := by
  rw [record, h.2]
  rfl

/-! ### Turns in a row -/

/-- The state after the last of the turns, or the given one without turns. -/
def stateAfter : RunState → List Turn → RunState
  | st, [] => st
  | _, t :: ts => stateAfter t.after ts

/-- The context that the last of the turns left, or the given one without turns. -/
def contextAfter : Context → List Turn → Context
  | ctx, [] => ctx
  | _, t :: ts => contextAfter t.outcome.context ts

/-- Each module is given the context that its predecessor left, the first one `ctx`. -/
def Threaded : Context → List Turn → Prop
  | _, [] => True
  | ctx, t :: ts => t.state.context = ctx ∧ Threaded t.outcome.context ts

/-- Of the states in a row of turns the contexts are those that the modules left. -/
@[simp] theorem context_stateAfter (st : RunState) (ts : List Turn) :
    (stateAfter st ts).context = contextAfter st.context ts := by
  induction ts generalizing st with
  | nil => rfl
  | cons t ts ih => rw [stateAfter, contextAfter, ih, context_after]

/-- Contexts are handed on from one row of turns to the next. -/
@[simp] theorem contextAfter_append (ctx : Context) (xs ys : List Turn) :
    contextAfter ctx (xs ++ ys) = contextAfter (contextAfter ctx xs) ys := by
  induction xs generalizing ctx with
  | nil => rfl
  | cons x xs ih => rw [List.cons_append, contextAfter, contextAfter, ih]

/-! ### Where a run through turns ends -/

/-- `Ends registry loaded ts done e`: of the turns `ts` those in `done` are executed, and the
run ends with `e`. The first module with missing dependencies is not executed; the first that
fails is; after either nothing is. -/
inductive Ends (registry : Registry) (loaded : KeySet ModuleKey) :
    List Turn → List Turn → Option RunError → Prop
  | through {ts : List Turn} (passed : ∀ t ∈ ts, t.Passes registry loaded) :
      Ends registry loaded ts ts none
  | refused {before : List Turn} {t : Turn} {rest : List Turn}
      (passed : ∀ x ∈ before, x.Passes registry loaded) (lacks : t.missing registry loaded ≠ []) :
      Ends registry loaded (before ++ t :: rest) before
        (some (.missingDependencies t.stage.name t.module.kind (t.missing registry loaded)))
  | failed {before : List Turn} {t : Turn} {rest : List Turn} {f : Failure}
      (passed : ∀ x ∈ before, x.Passes registry loaded) (lacks : t.missing registry loaded = [])
      (fails : t.outcome.result = .error f) :
      Ends registry loaded (before ++ t :: rest) (before ++ [t])
        (some (.execution t.stage.name t.module.kind f))

namespace Ends

variable {registry : Registry} {loaded : KeySet ModuleKey} {xs ys done : List Turn}
  {e : Option RunError}

/-- What comes after turns that all pass decides. -/
theorem append_of_passes (h : ∀ x ∈ xs, x.Passes registry loaded)
    (hy : Ends registry loaded ys done e) : Ends registry loaded (xs ++ ys) (xs ++ done) e := by
  have hxs : ∀ {zs : List Turn}, (∀ z ∈ zs, z.Passes registry loaded) →
      ∀ z ∈ xs ++ zs, z.Passes registry loaded := by
    intro zs hz z hm
    rcases List.mem_append.mp hm with hm | hm
    · exact h z hm
    · exact hz z hm
  cases hy with
  | through passed => exact .through (hxs passed)
  | refused passed lacks =>
    rw [← List.append_assoc]
    exact .refused (hxs passed) lacks
  | failed passed lacks fails =>
    rw [← List.append_assoc, ← List.append_assoc]
    exact .failed (hxs passed) lacks fails

/-- What comes after the end of a run is of no account. -/
theorem append_right {f : RunError} (h : Ends registry loaded xs done (some f)) :
    Ends registry loaded (xs ++ ys) done (some f) := by
  cases h with
  | refused passed lacks =>
    rw [List.append_assoc, List.cons_append]
    exact .refused passed lacks
  | failed passed lacks fails =>
    rw [List.append_assoc, List.cons_append]
    exact .failed passed lacks fails

/-- What is executed is a prefix. -/
theorem isPrefix (h : Ends registry loaded xs done e) : done <+: xs := by
  cases h with
  | through => exact List.prefix_rfl
  | refused => exact List.prefix_append _ _
  | failed => exact ⟨_, List.append_assoc _ [_] _⟩

/-- A run ends without an error exactly when everything was executed and passed. -/
theorem eq_none_iff (h : Ends registry loaded xs done e) :
    e = none ↔ done = xs ∧ ∀ x ∈ xs, x.Passes registry loaded := by
  cases h with
  | through passed => exact ⟨fun _ => ⟨rfl, passed⟩, fun _ => rfl⟩
  | refused passed lacks =>
    refine ⟨nofun, fun hall => ?_⟩
    exact absurd (hall.2 _ (List.mem_append_right _ List.mem_cons_self)).1 lacks
  | failed passed lacks fails =>
    refine ⟨nofun, fun hall => ?_⟩
    have hok := (hall.2 _ (List.mem_append_right _ List.mem_cons_self)).2
    rw [fails] at hok
    cases hok

/-- The first of the turns is refused, or fails, or passes; only in the last case is there
more to it. -/
theorem cons_cases {t : Turn} {ts : List Turn} (h : Ends registry loaded (t :: ts) done e) :
    (t.missing registry loaded ≠ [] ∧ done = [] ∧
      e = some (.missingDependencies t.stage.name t.module.kind (t.missing registry loaded))) ∨
    (t.missing registry loaded = [] ∧ ∃ f, t.outcome.result = .error f ∧ done = [t] ∧
      e = some (.execution t.stage.name t.module.kind f)) ∨
    (t.Passes registry loaded ∧ ∃ more, done = t :: more ∧ Ends registry loaded ts more e) := by
  generalize hxs : t :: ts = xs at h
  cases h with
  | through passed =>
    rw [← hxs, List.forall_mem_cons] at passed
    exact .inr (.inr ⟨passed.1, ts, hxs.symm, .through passed.2⟩)
  | refused passed lacks =>
    -- either it is refused itself, or a later one is
    cases done with
    | nil =>
      obtain ⟨rfl, rfl⟩ := List.cons.inj hxs
      exact .inl ⟨lacks, rfl, rfl⟩
    | cons x more =>
      obtain ⟨rfl, rfl⟩ := List.cons.inj hxs
      rw [List.forall_mem_cons] at passed
      exact .inr (.inr ⟨passed.1, more, rfl, .refused passed.2 lacks⟩)
  | @failed before _ _ f passed lacks fails =>
    -- either it fails itself, or a later one does
    cases before with
    | nil =>
      obtain ⟨rfl, rfl⟩ := List.cons.inj hxs
      exact .inr (.inl ⟨lacks, f, fails, rfl, rfl⟩)
    | cons x before =>
      obtain ⟨rfl, rfl⟩ := List.cons.inj hxs
      rw [List.forall_mem_cons] at passed
      exact .inr (.inr ⟨passed.1, _, rfl, .failed passed.2 lacks fails⟩)

/-- Turns leave no choice in where a run through them ends. -/
theorem unique (h : Ends registry loaded xs done e) {done' : List Turn} {e' : Option RunError}
    (h' : Ends registry loaded xs done' e') : done = done' ∧ e = e' := by
  induction xs generalizing done done' with
  | nil =>
    have hdone := List.prefix_nil.mp h.isPrefix
    have hdone' := List.prefix_nil.mp h'.isPrefix
    rw [h.eq_none_iff.mpr ⟨hdone, nofun⟩, h'.eq_none_iff.mpr ⟨hdone', nofun⟩]
    exact ⟨hdone.trans hdone'.symm, rfl⟩
  | cons x xs ih =>
    -- nine cases, three of which agree; of the others each has the first module end in two ways at
    -- once
    rcases h.cons_cases with ⟨hx, rfl, rfl⟩ | ⟨hx, f, hf, rfl, rfl⟩ | ⟨hx, more, rfl, hmore⟩ <;>
      rcases h'.cons_cases with
        ⟨hx', rfl, rfl⟩ | ⟨hx', f', hf', rfl, rfl⟩ | ⟨hx', more', rfl, hmore'⟩
    · exact ⟨rfl, rfl⟩
    · exact absurd hx' hx
    · exact absurd hx'.1 hx
    · exact absurd hx hx'
    · rw [hf] at hf'
      cases hf'
      exact ⟨rfl, rfl⟩
    · rw [hx'.2] at hf
      cases hf
    · exact absurd hx.1 hx'
    · rw [hx.2] at hf'
      cases hf'
    · obtain ⟨rfl, he⟩ := ih hmore hmore'
      exact ⟨rfl, he⟩

/-- Of what is executed, everything before passed, and nothing was missing. -/
theorem of_executed (h : Ends registry loaded xs done e) {before : List Turn} {t : Turn}
    {rest : List Turn} (hdone : done = before ++ t :: rest) :
    (∀ x ∈ before, x.Passes registry loaded) ∧ t.missing registry loaded = [] := by
  induction xs generalizing done before with
  | nil =>
    have hnil := List.prefix_nil.mp h.isPrefix
    rw [hdone] at hnil
    exact absurd hnil (List.append_ne_nil_of_right_ne_nil _ (List.cons_ne_nil t rest))
  | cons x xs ih =>
    -- the first turn was refused, failed or passed, and only then anything stands behind it
    rcases h.cons_cases with ⟨-, rfl, -⟩ | ⟨hx, f, -, rfl, -⟩ | ⟨hx, more, rfl, hmore⟩
    · exact absurd hdone.symm (List.append_ne_nil_of_right_ne_nil _ (List.cons_ne_nil t rest))
    · cases before with
      | nil =>
        obtain ⟨rfl, -⟩ := List.cons.inj hdone
        exact ⟨nofun, hx⟩
      | cons y before =>
        have htail := (List.cons.inj hdone).2.symm
        exact absurd htail (List.append_ne_nil_of_right_ne_nil _ (List.cons_ne_nil t rest))
    · cases before with
      | nil =>
        obtain ⟨rfl, -⟩ := List.cons.inj hdone
        exact ⟨nofun, hx.1⟩
      | cons y before =>
        obtain ⟨rfl, htail⟩ := List.cons.inj hdone
        obtain ⟨hbefore, hmissing⟩ := ih hmore htail
        exact ⟨List.forall_mem_cons.mpr ⟨hx, hbefore⟩, hmissing⟩

end Ends

end Turn

/-! ## The schedule -/

namespace Stage

/-- The turns of modules one after the other, each on what its predecessor left, whether that
one succeeded or not. -/
def turns (s : Stage) : List StageModule → RunState → List Turn
  | [], _ => []
  | m :: ms, st => ⟨s, m, st⟩ :: s.turns ms (Turn.after ⟨s, m, st⟩)

/-- The state with which a stage begins. -/
def enter (s : Stage) (st : RunState) : RunState := st.say ("====> " ++ s.banner)

/-- The state after a stage whose modules have all been executed. -/
def leave (s : Stage) (st : RunState) : RunState :=
  let st := st.say ("<==== " ++ s.banner ++ " done")
  { st with metrics := st.metrics.countStage s.name }

/-- The state after a stage that is skipped. -/
def passOver (s : Stage) (st : RunState) : RunState :=
  let st := (s.enter st).say "SKIPPED"
  RunState.say { st with metrics := st.metrics.countSkip s.name } ("<==== " ++ s.banner ++ " done")

/-- All modules of the stage, in the order of their declaration. -/
theorem map_module_turns (s : Stage) (ms : List StageModule) (st : RunState) :
    (s.turns ms st).map Turn.module = ms := by
  induction ms generalizing st with
  | nil => rfl
  | cons m ms ih => rw [turns, List.map_cons, ih]

/-- The turns of a stage are its own. -/
theorem stage_of_mem_turns {s : Stage} {ms : List StageModule} {st : RunState} {t : Turn}
    (h : t ∈ s.turns ms st) : t.stage = s := by
  induction ms generalizing st with
  | nil => cases h
  | cons m ms ih =>
    rcases List.mem_cons.mp h with rfl | h
    · rfl
    · exact ih h

/-- Each module of a stage is given what the one before it left. -/
theorem threaded_turns (s : Stage) (ms : List StageModule) (st : RunState) :
    Turn.Threaded st.context (s.turns ms st) := by
  induction ms generalizing st with
  | nil => exact True.intro
  | cons m ms ih =>
    refine ⟨rfl, ?_⟩
    rw [← Turn.context_after]
    exact ih _

/-- Executing modules goes through their turns. -/
theorem executeAll_ends (registry : Registry) (loaded : KeySet ModuleKey) (s : Stage)
    (ms : List StageModule) (st : RunState) :
    ∃ done, Turn.Ends registry loaded (s.turns ms st) done
        (s.executeAll registry loaded ms st).2 ∧
      (s.executeAll registry loaded ms st).1 = Turn.stateAfter st done ∧
      (s.executeAll registry loaded ms st).1.executed = st.executed ++ done.map Turn.record := by
  induction ms generalizing st with
  | nil => exact ⟨[], .through nofun, rfl, (List.append_nil _).symm⟩
  | cons m ms ih =>
    let t : Turn := ⟨s, m, st⟩
    have hexec : s.execute m st = (t.after, t.outcome.result) := rfl
    rw [turns, executeAll]
    -- the dependencies are looked up first, and a module that misses one is not executed
    cases hm : (s.source registry).missing m.key loaded with
    | cons d ds =>
      have hlacks : t.missing registry loaded = d :: ds := hm
      have hends : Turn.Ends registry loaded ([] ++ t :: s.turns ms t.after) [] _ :=
        .refused nofun (by rw [hlacks]; exact List.cons_ne_nil d ds)
      rw [hlacks] at hends
      exact ⟨[], hends, rfl, (List.append_nil _).symm⟩
    | nil =>
      dsimp only
      rw [hexec]
      cases hr : t.outcome.result with
      | error f =>
        have hends : Turn.Ends registry loaded ([] ++ t :: s.turns ms t.after) ([] ++ [t]) _ :=
          .failed nofun hm hr
        exact ⟨[t], hends, rfl, Turn.executed_after t⟩
      | ok u =>
        obtain ⟨done, hends, hstate, hexecuted⟩ := ih t.after
        refine ⟨t :: done, ?_, hstate, ?_⟩
        -- it passed, so how the other turns end decides
        · have hpass : ∀ x ∈ [t], x.Passes registry loaded := by
            intro x hx
            rw [List.mem_singleton.mp hx]
            exact ⟨hm, hr⟩
          exact hends.append_of_passes hpass
        · rw [hexecuted, Turn.executed_after, List.append_assoc]
          rfl

/-! ### Running a stage -/

/-- A stage that is skipped runs no module. -/
theorem run_of_skip {registry : Registry} {loaded : KeySet ModuleKey} {s : Stage} {st : RunState}
    (h : s.shouldSkip st.context = true) :
    s.run registry loaded st = (s.passOver st, .ok .skipped) := by
  rw [run]
  dsimp only
  rw [RunState.context_say, if_pos h]
  rfl

/-- A stage that is entered runs its modules, and is counted on either way out. -/
theorem run_of_enter {registry : Registry} {loaded : KeySet ModuleKey} {s : Stage} {st : RunState}
    (h : s.shouldSkip st.context = false) :
    s.run registry loaded st =
      match s.executeAll registry loaded s.modules (s.enter st) with
      | (st, some e) => ({ st with metrics := st.metrics.countStage s.name }, .error e)
      | (st, none) => (s.leave st, .ok .completed) := by
  rw [run]
  dsimp only
  rw [RunState.context_say, if_neg (by rw [h]; exact Bool.false_ne_true)]
  rfl

end Stage

namespace Pipeline

/-- The turns of the modules of stages. Whether a stage is skipped is decided on the context
that everything before it left. -/
def scheduleOf : List Stage → RunState → List Turn
  | [], _ => []
  | s :: rest, st =>
    if s.shouldSkip st.context then scheduleOf rest (s.passOver st)
    else
      let here := s.turns s.modules (s.enter st)
      here ++ scheduleOf rest (s.leave (Turn.stateAfter (s.enter st) here))

/-- What a run of the pipeline would execute if nothing stopped it. -/
def schedule (p : Pipeline) (now : String) (st : RunState) : List Turn :=
  scheduleOf p.stages { st with metrics := .start now }

/-- `Listed stages ctx ts`: from the context `ctx` on, the turns `ts` are those of the modules
of the stages in order, without the stages whose condition holds on the context that all
turns before them left; each module is given the context that its predecessor left. -/
inductive Listed : List Stage → Context → List Turn → Prop
  | nil {ctx : Context} : Listed [] ctx []
  | skip {s : Stage} {rest : List Stage} {ctx : Context} {ts : List Turn}
      (skipped : s.shouldSkip ctx = true) (later : Listed rest ctx ts) : Listed (s :: rest) ctx ts
  | enter {s : Stage} {rest : List Stage} {ctx : Context} {here ts : List Turn}
      (entered : s.shouldSkip ctx = false) (stages : ∀ t ∈ here, t.stage = s)
      (modules : here.map Turn.module = s.modules) (threaded : Turn.Threaded ctx here)
      (later : Listed rest (Turn.contextAfter ctx here) ts) : Listed (s :: rest) ctx (here ++ ts)

/-- Every listed turn is that of a module of one of the stages. -/
theorem Listed.mem {stages : List Stage} {ctx : Context} {ts : List Turn}
    (h : Listed stages ctx ts) {t : Turn} (ht : t ∈ ts) :
    t.stage ∈ stages ∧ t.module ∈ t.stage.modules := by
  induction h with
  | nil => cases ht
  | skip _ _ ih => exact ⟨List.mem_cons_of_mem _ (ih ht).1, (ih ht).2⟩
  | enter _ hstages hmodules _ _ ih =>
    rcases List.mem_append.mp ht with ht | ht
    · have hs := hstages t ht
      refine ⟨hs ▸ List.mem_cons_self, ?_⟩
      rw [hs, ← hmodules]
      exact List.mem_map_of_mem ht
    · exact ⟨List.mem_cons_of_mem _ (ih ht).1, (ih ht).2⟩

/-- A stage that is skipped is not scheduled. -/
theorem scheduleOf_of_skip {s : Stage} {rest : List Stage} {st : RunState}
    (h : s.shouldSkip st.context = true) :
    scheduleOf (s :: rest) st = scheduleOf rest (s.passOver st) := by
  rw [scheduleOf, if_pos h]

/-- Of a stage that is entered all modules are scheduled. -/
theorem scheduleOf_of_enter {s : Stage} {rest : List Stage} {st : RunState}
    (h : s.shouldSkip st.context = false) :
    scheduleOf (s :: rest) st = s.turns s.modules (s.enter st) ++
      scheduleOf rest
        (s.leave (Turn.stateAfter (s.enter st) (s.turns s.modules (s.enter st)))) := by
  rw [scheduleOf, if_neg (by rw [h]; exact Bool.false_ne_true)]

/-- The schedule is what its name says. -/
theorem listed_scheduleOf (stages : List Stage) (st : RunState) :
    Listed stages st.context (scheduleOf stages st) := by
  induction stages generalizing st with
  | nil => exact .nil
  | cons s rest ih =>
    cases h : s.shouldSkip st.context with
    | true =>
      rw [scheduleOf_of_skip h]
      exact .skip h (ih (s.passOver st))
    | false =>
      rw [scheduleOf_of_enter h]
      have hlater := ih (s.leave (Turn.stateAfter (s.enter st) (s.turns s.modules (s.enter st))))
      have hleft : (s.leave (Turn.stateAfter (s.enter st)
          (s.turns s.modules (s.enter st)))).context
            = Turn.contextAfter st.context (s.turns s.modules (s.enter st)) :=
        Turn.context_stateAfter _ _
      rw [hleft] at hlater
      exact .enter h (fun t ht => Stage.stage_of_mem_turns ht) (s.map_module_turns _ _)
        (s.threaded_turns s.modules (s.enter st)) hlater

/-- A run of stages goes through their schedule. The induction is on the stages; within one
stage `executeAll_ends` has done the work, and what is left is that an end within a stage is
an end of the whole, and that a stage without one hands its state on. -/
theorem runStages_ends (registry : Registry) (loaded : KeySet ModuleKey) (stages : List Stage)
    (st : RunState) :
    ∃ done, Turn.Ends registry loaded (scheduleOf stages st) done
        (runStages registry loaded stages st).2 ∧
      (runStages registry loaded stages st).1.context = Turn.contextAfter st.context done ∧
      (runStages registry loaded stages st).1.executed = st.executed ++ done.map Turn.record := by
  induction stages generalizing st with
  | nil => exact ⟨[], .through nofun, rfl, (List.append_nil _).symm⟩
  | cons s rest ih =>
    cases h : s.shouldSkip st.context with
    | true =>
      rw [scheduleOf_of_skip h, runStages, Stage.run_of_skip h]
      exact ih (s.passOver st)
    | false =>
      obtain ⟨here, hends, hstate, hexecuted⟩ :=
        s.executeAll_ends registry loaded s.modules (s.enter st)
      rw [scheduleOf_of_enter h, runStages, Stage.run_of_enter h]
      cases hres : s.executeAll registry loaded s.modules (s.enter st) with
      | mk left e =>
        rw [hres] at hends hstate hexecuted
        dsimp only at hends hstate hexecuted ⊢
        have hcontext : left.context = Turn.contextAfter st.context here := by
          rw [hstate]
          exact Turn.context_stateAfter _ _
        cases e with
        -- an end within this stage is an end of the whole run
        | some f => exact ⟨here, hends.append_right, hcontext, hexecuted⟩
        | none =>
          obtain ⟨hall, hpass⟩ := hends.eq_none_iff.mp rfl
          subst hall
          rw [← hstate]
          obtain ⟨done, hends, hlater, hmore⟩ := ih (s.leave left)
          refine ⟨_, hends.append_of_passes hpass, ?_, ?_⟩
          · rw [hlater, Turn.contextAfter_append, ← hcontext]
            rfl
          · rw [hmore, List.map_append, ← List.append_assoc]
            exact congrArg (· ++ done.map Turn.record) hexecuted

/-- The same for a whole run, from any state. -/
theorem run_ends (p : Pipeline) (now : String) (st : RunState) :
    ∃ done, Turn.Ends p.registry p.loaded (p.schedule now st) done (p.run now st).2 ∧
      (p.run now st).1.context = Turn.contextAfter st.context done ∧
      (p.run now st).1.executed = st.executed ++ done.map Turn.record :=
  runStages_ends p.registry p.loaded p.stages { st with metrics := .start now }

/-- The schedule of a run is that of its stages, from the context that it is given. -/
theorem listed_schedule (p : Pipeline) (now : String) (st : RunState) :
    Listed p.stages st.context (p.schedule now st) :=
  listed_scheduleOf p.stages { st with metrics := .start now }

/-- **A run goes through its schedule.** The schedule lists the modules of the stages in order,
without the stages that are skipped on the context everything before them left, and each
module is given the context its predecessor left (`Listed`). The run executes a prefix of it
and ends where the first module is refused or fails, with the error that says so (`Ends`);
the records of the executions hold the contexts given and left, so they are those of the
schedule. It ends without an error exactly when the whole schedule was executed and nothing
in it is refused or fails. -/
theorem run_follows_schedule (p : Pipeline) (now : String) (st : RunState) :
    Listed p.stages st.context (p.schedule now st) ∧
      ∃ done, done <+: p.schedule now st ∧
        Turn.Ends p.registry p.loaded (p.schedule now st) done (p.run now st).2 ∧
        (p.run now st).1.executed = st.executed ++ done.map Turn.record ∧
        (p.run now st).1.context = Turn.contextAfter st.context done ∧
        ((p.run now st).2 = none ↔
          done = p.schedule now st ∧ ∀ t ∈ p.schedule now st, t.Passes p.registry p.loaded) := by
  obtain ⟨done, hends, hcontext, hexecuted⟩ := p.run_ends now st
  exact ⟨p.listed_schedule now st, done, hends.isPrefix, hends, hexecuted, hcontext,
    hends.eq_none_iff⟩

end Pipeline

end ReleasePipeline
