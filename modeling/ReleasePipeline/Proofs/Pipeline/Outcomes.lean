/-
What becomes of the stages of a run.

A run tells how it ended, but not which stages it got to. `Pipeline.outcomes` lists that, one
entry for each stage whose turn came: a stage is skipped, or it is entered and then either
completed or broken off, and after a stage that is broken off there is nothing. `Goes` says how
the entries, the executed modules and the state hang together, stage by stage, so that a
statement about one stage is a case analysis and not an induction over runs.

Of the host it is shown here that what holds between the two ends of every executed module holds
between the two ends of the run (`Goes.host`), provided that output is of no account.
-/
import ReleasePipeline.Proofs.Host.Effects
import ReleasePipeline.Proofs.Pipeline.Schedule

set_option autoImplicit false

namespace ReleasePipeline

namespace Pipeline

/-! ## The outcomes of stages

An outcome is not part of what a run returns, so it is computed beside the run, by the same
functions. `runStages_goes` is what keeps the two together. -/

/-- What became of stages, by their names, up to the one that was broken off. -/
def outcomesOf (registry : Registry) (loaded : KeySet ModuleKey) :
    List Stage → RunState → List (String × Except RunError StageOutcome)
  | [], _ => []
  | s :: rest, st =>
    match s.run registry loaded st with
    | (st, .ok outcome) => (s.name, .ok outcome) :: outcomesOf registry loaded rest st
    | (_, .error e) => [(s.name, .error e)]

/-- What became of the stages of a pipeline whose turn came in a run. -/
def outcomes (p : Pipeline) (now : String) (st : RunState) :
    List (String × Except RunError StageOutcome) :=
  outcomesOf p.registry p.loaded p.stages { st with metrics := .start now }

/-- The stage of a name was entered and came to its end. -/
def Completed (p : Pipeline) (now : String) (st : RunState) (name : String) : Prop :=
  (name, .ok .completed) ∈ p.outcomes now st

/-- The turn of the stage of a name came and it was not skipped. -/
def Entered (p : Pipeline) (now : String) (st : RunState) (name : String) : Prop :=
  ∃ outcome, (name, outcome) ∈ p.outcomes now st ∧ outcome ≠ .ok .skipped

/-! ## Going through stages -/

/-- `Goes registry loaded stages st outcomes done left`: from the state `st` on, the stages have
these outcomes, the turns `done` are executed, and `left` is the state in the end. -/
inductive Goes (registry : Registry) (loaded : KeySet ModuleKey) :
    List Stage → RunState → List (String × Except RunError StageOutcome) → List Turn →
      RunState → Prop
  | nil {st : RunState} : Goes registry loaded [] st [] [] st
  | skipped {s : Stage} {rest : List Stage} {st left : RunState}
      {outcomes : List (String × Except RunError StageOutcome)} {done : List Turn}
      (skips : s.shouldSkip st.context = true)
      (later : Goes registry loaded rest (s.passOver st) outcomes done left) :
      Goes registry loaded (s :: rest) st ((s.name, .ok .skipped) :: outcomes) done left
  | completed {s : Stage} {rest : List Stage} {st left : RunState}
      {outcomes : List (String × Except RunError StageOutcome)} {done : List Turn}
      (enters : s.shouldSkip st.context = false)
      (passed : ∀ t ∈ s.turns s.modules (s.enter st), t.Passes registry loaded)
      (later : Goes registry loaded rest
        (s.leave (Turn.stateAfter (s.enter st) (s.turns s.modules (s.enter st)))) outcomes done
        left) :
      Goes registry loaded (s :: rest) st ((s.name, .ok .completed) :: outcomes)
        (s.turns s.modules (s.enter st) ++ done) left
  | brokenOff {s : Stage} {rest : List Stage} {st : RunState} {e : RunError} {here : List Turn}
      {metrics : Metrics}
      (enters : s.shouldSkip st.context = false)
      (ends : Turn.Ends registry loaded (s.turns s.modules (s.enter st)) here (some e)) :
      Goes registry loaded (s :: rest) st [(s.name, .error e)] here
        { Turn.stateAfter (s.enter st) here with metrics }

/-- A run of stages goes through them, and through their schedule. -/
theorem runStages_goes (registry : Registry) (loaded : KeySet ModuleKey) (stages : List Stage)
    (st : RunState) :
    ∃ done, Goes registry loaded stages st (outcomesOf registry loaded stages st) done
        (runStages registry loaded stages st).1 ∧
      done <+: scheduleOf stages st ∧
      (runStages registry loaded stages st).1.executed = st.executed ++ done.map Turn.record := by
  induction stages generalizing st with
  | nil => exact ⟨[], .nil, List.prefix_rfl, (List.append_nil _).symm⟩
  | cons s rest ih =>
    rw [outcomesOf, runStages]
    -- within one stage `executeAll_ends` has done the work
    cases h : s.shouldSkip st.context with
    | true =>
      rw [scheduleOf_of_skip h, Stage.run_of_skip h]
      obtain ⟨done, hgoes, hbegin, hexecuted⟩ := ih (s.passOver st)
      exact ⟨done, .skipped h hgoes, hbegin, hexecuted⟩
    | false =>
      obtain ⟨here, hends, hstate, hexecuted⟩ :=
        s.executeAll_ends registry loaded s.modules (s.enter st)
      rw [scheduleOf_of_enter h, Stage.run_of_enter h]
      cases hres : s.executeAll registry loaded s.modules (s.enter st) with
      | mk left e =>
        rw [hres] at hends hstate hexecuted
        dsimp only at hends hstate hexecuted ⊢
        cases e with
        | some f =>
          subst hstate
          -- what comes after a stage that is broken off is neither executed nor listed
          exact ⟨here, .brokenOff h hends, hends.isPrefix.trans (List.prefix_append _ _), hexecuted⟩
        | none =>
          obtain ⟨hall, hpassed⟩ := hends.eq_none_iff.mp rfl
          subst hall hstate
          obtain ⟨done, hgoes, hbegin, hmore⟩ := ih (s.leave _)
          refine ⟨_, .completed h hpassed hgoes, (List.prefix_append_right_inj _).mpr hbegin, ?_⟩
          rw [hmore, List.map_append, ← List.append_assoc]
          exact congrArg (· ++ done.map Turn.record) hexecuted

/-- The same for a whole run, from any state. -/
theorem run_goes (p : Pipeline) (now : String) (st : RunState) :
    ∃ done, Goes p.registry p.loaded p.stages { st with metrics := .start now }
        (p.outcomes now st) done (p.run now st).1 ∧
      done <+: p.schedule now st ∧
      (p.run now st).1.executed = st.executed ++ done.map Turn.record :=
  runStages_goes p.registry p.loaded p.stages { st with metrics := .start now }

/-- A state leaves no choice in what becomes of stages and what is done there. -/
theorem Goes.unique {registry : Registry} {loaded : KeySet ModuleKey} {stages : List Stage}
    {st left left' : RunState} {outcomes outcomes' : List (String × Except RunError StageOutcome)}
    {done done' : List Turn} (h : Goes registry loaded stages st outcomes done left)
    (h' : Goes registry loaded stages st outcomes' done' left') :
    outcomes = outcomes' ∧ done = done' := by
  induction h generalizing outcomes' done' with
  | nil =>
    cases h'
    exact ⟨rfl, rfl⟩
  | skipped skips _ ih =>
    cases h' with
    | skipped _ later =>
      obtain ⟨rfl, rfl⟩ := ih later
      exact ⟨rfl, rfl⟩
    | completed enters _ _ => exact absurd skips (Bool.eq_false_iff.mp enters)
    | brokenOff enters _ => exact absurd skips (Bool.eq_false_iff.mp enters)
  | completed enters passed _ ih =>
    cases h' with
    | skipped skips _ => exact absurd skips (Bool.eq_false_iff.mp enters)
    | completed _ _ later =>
      obtain ⟨rfl, rfl⟩ := ih later
      exact ⟨rfl, rfl⟩
    -- all modules passed, or one of them did not, and `Ends` says which
    | brokenOff _ ends => cases ((Turn.Ends.through passed).unique ends).2
  | brokenOff enters ends =>
    cases h' with
    | skipped skips _ => exact absurd skips (Bool.eq_false_iff.mp enters)
    | completed _ passed _ => cases (ends.unique (Turn.Ends.through passed)).2
    | brokenOff _ ends' =>
      obtain ⟨rfl, he⟩ := ends.unique ends'
      cases he
      exact ⟨rfl, rfl⟩

/-- A module is executed only in a stage that is entered. -/
theorem Goes.entered_of_mem {registry : Registry} {loaded : KeySet ModuleKey}
    {stages : List Stage} {st left : RunState}
    {outcomes : List (String × Except RunError StageOutcome)} {done : List Turn}
    (h : Goes registry loaded stages st outcomes done left) {t : Turn} (ht : t ∈ done) :
    ∃ outcome, (t.stage.name, outcome) ∈ outcomes ∧ outcome ≠ .ok .skipped := by
  induction h with
  | nil => cases ht
  | skipped _ _ ih =>
    obtain ⟨outcome, hmem, hne⟩ := ih ht
    exact ⟨outcome, List.mem_cons_of_mem _ hmem, hne⟩
  | completed _ _ _ ih =>
    rcases List.mem_append.mp ht with ht | ht
    -- it is one of the modules of this stage
    · rw [Stage.stage_of_mem_turns ht]
      exact ⟨_, List.mem_cons_self, nofun⟩
    · obtain ⟨outcome, hmem, hne⟩ := ih ht
      exact ⟨outcome, List.mem_cons_of_mem _ hmem, hne⟩
  | brokenOff _ ends =>
    rw [Stage.stage_of_mem_turns (ends.isPrefix.subset ht)]
    exact ⟨_, List.mem_cons_self, nofun⟩

/-- Each of two rows of turns is given what its predecessors left. -/
theorem threaded_append {ctx : Context} {xs ys : List Turn} (hx : Turn.Threaded ctx xs)
    (hy : Turn.Threaded (Turn.contextAfter ctx xs) ys) : Turn.Threaded ctx (xs ++ ys) := by
  induction xs generalizing ctx with
  | nil => exact hy
  | cons x xs ih => exact ⟨hx.1, ih hx.2 hy⟩

section Cases

variable {registry : Registry} {loaded : KeySet ModuleKey} {s : Stage} {rest : List Stage}
  {st left : RunState} {outcomes : List (String × Except RunError StageOutcome)}
  {done : List Turn}

/-- A stage that is not skipped is broken off, or all its modules pass and the run goes on. -/
theorem Goes.cons_of_enters (hs : ∀ ctx, s.shouldSkip ctx = false)
    (h : Goes registry loaded (s :: rest) st outcomes done left) :
    (∃ e, outcomes = [(s.name, .error e)]) ∨
    ∃ here later more next, done = here ++ later ∧ outcomes = (s.name, .ok .completed) :: more
      ∧ (∀ t ∈ here, t.Passes registry loaded) ∧ Turn.Threaded st.context here
      ∧ here.map Turn.module = s.modules
      ∧ next.context = Turn.contextAfter st.context here
      ∧ Goes registry loaded rest next more later left := by
  cases h with
  | skipped skips _ =>
    rw [hs] at skips
    cases skips
  | brokenOff _ ends => exact .inl ⟨_, rfl⟩
  | completed _ passed later =>
    have hnext : (s.leave (Turn.stateAfter (s.enter st) (s.turns s.modules (s.enter st)))).context
        = Turn.contextAfter st.context (s.turns s.modules (s.enter st)) :=
      Turn.context_stateAfter (s.enter st) _
    exact .inr ⟨_, _, _, _, rfl, rfl, passed, s.threaded_turns s.modules (s.enter st),
      s.map_module_turns _ _, hnext, later⟩

/-- The last stage is skipped exactly if its condition holds. -/
theorem Goes.of_last (h : Goes registry loaded [s] st outcomes done left) :
    ∃ outcome, outcomes = [(s.name, outcome)] ∧ (∀ t ∈ done, t.stage = s)
      ∧ (outcome = .ok .skipped ↔ s.shouldSkip st.context = true) := by
  cases h with
  | skipped skips later =>
    cases later
    exact ⟨_, rfl, nofun, fun _ => skips, fun _ => rfl⟩
  | brokenOff enters ends =>
    refine ⟨_, rfl, fun t ht => Stage.stage_of_mem_turns (ends.isPrefix.subset ht), ?_⟩
    rw [enters]
    exact ⟨nofun, nofun⟩
  | completed enters _ later =>
    cases later
    rw [List.append_nil]
    refine ⟨_, rfl, fun t ht => Stage.stage_of_mem_turns ht, ?_⟩
    rw [enters]
    exact ⟨nofun, nofun⟩

/-- Of three stages the first two of which are never skipped, one of these is broken off, or the
last one has its turn after all modules of the first two have passed. -/
theorem Goes.of_three {first second last : Stage} (hfirst : ∀ ctx, first.shouldSkip ctx = false)
    (hsecond : ∀ ctx, second.shouldSkip ctx = false)
    (h : Goes registry loaded [first, second, last] st outcomes done left) :
    (∃ e, outcomes = [(first.name, .error e)]
      ∨ outcomes = [(first.name, .ok .completed), (second.name, .error e)]) ∨
    ∃ before later outcome, done = before ++ later
      ∧ (∀ t ∈ before, t.Passes registry loaded) ∧ Turn.Threaded st.context before
      ∧ before.map Turn.module = first.modules ++ second.modules
      ∧ (∀ t ∈ later, t.stage = last)
      ∧ outcomes = [(first.name, .ok .completed), (second.name, .ok .completed),
          (last.name, outcome)]
      ∧ (outcome = .ok .skipped ↔
        last.shouldSkip (Turn.contextAfter st.context before) = true) := by
  rcases h.cons_of_enters hfirst with ⟨e, houtcomes⟩ |
    ⟨one, rest, more, next, rfl, rfl, hone, hthreaded, hmodules, hnext, h⟩
  · exact .inl ⟨e, .inl houtcomes⟩
  rcases h.cons_of_enters hsecond with ⟨e, rfl⟩ |
    ⟨two, rest, more, final, rfl, rfl, htwo, hthreaded', hmodules', hfinal, h⟩
  · exact .inl ⟨e, .inr rfl⟩
  obtain ⟨outcome, rfl, hstage, hskipped⟩ := h.of_last
  -- the second stage begins with the context that the first one left
  rw [hnext] at hthreaded' hfinal
  refine .inr ⟨one ++ two, rest, outcome, (List.append_assoc _ _ _).symm,
    List.forall_mem_append.mpr ⟨hone, htwo⟩, threaded_append hthreaded hthreaded', ?_, hstage, rfl,
    ?_⟩
  · rw [List.map_append, hmodules, hmodules']
  · rw [hskipped, hfinal, Turn.contextAfter_append]

end Cases

end Pipeline

/-! ## The host -/

section Host

variable {R : Host → Host → Prop} [Host.Frame R]

/-- Between the two ends of a turn there is the module and some output. -/
theorem Turn.host_after (t : Turn)
    (h : ∀ host, R host (t.module.module.run t.state.context host).host) :
    R t.state.host t.after.host := by
  have hmodule : R t.state.host t.outcome.host :=
    trans_of R (Host.Frame.say t.state.host _) (h _)
  unfold Turn.after Stage.execute
  dsimp only
  split
  · exact trans_of R hmodule (Host.Frame.say _ _)
  · exact hmodule

/-- Entering a stage is output only. -/
theorem Stage.host_enter (s : Stage) (st : RunState) : R st.host (s.enter st).host :=
  Host.Frame.say _ _

/-- So is leaving it. -/
theorem Stage.host_leave (s : Stage) (st : RunState) : R st.host (s.leave st).host :=
  Host.Frame.say _ _

/-- A stage that is skipped does no more than write three lines. -/
theorem Stage.host_passOver (s : Stage) (st : RunState) : R st.host (s.passOver st).host :=
  trans_of R (s.host_enter st) (trans_of R (Host.Frame.say _ _) (Host.Frame.say _ _))

/-- What holds between the ends of turns one after the other, holds from the first to the
last. -/
theorem Stage.host_stateAfter {s : Stage} {ms : List StageModule} {st : RunState}
    {here : List Turn} (hbegin : here <+: s.turns ms st)
    (h : ∀ t ∈ here, R t.state.host t.after.host) : R st.host (Turn.stateAfter st here).host := by
  induction ms generalizing st here with
  | nil =>
    obtain rfl := List.prefix_nil.mp hbegin
    exact refl_of R _
  | cons m ms ih =>
    cases here with
    | nil => exact refl_of R _
    | cons t here =>
      obtain ⟨rfl, hrest⟩ := List.cons_prefix_cons.mp hbegin
      rw [List.forall_mem_cons] at h
      exact trans_of R h.1 (ih hrest h.2)

namespace Pipeline

variable {registry : Registry} {loaded : KeySet ModuleKey} {stages : List Stage}
  {st left : RunState} {outcomes : List (String × Except RunError StageOutcome)}
  {done : List Turn}

/-- And so it holds between the ends of a run. -/
theorem Goes.host (hgoes : Goes registry loaded stages st outcomes done left)
    (h : ∀ t ∈ done, R t.state.host t.after.host) : R st.host left.host := by
  induction hgoes with
  | nil => exact refl_of R _
  | skipped _ _ ih => exact trans_of R (Stage.host_passOver _ _) (ih h)
  | completed _ _ _ ih =>
    rw [List.forall_mem_append] at h
    exact trans_of R (Stage.host_enter _ _) <|
      trans_of R (Stage.host_stateAfter List.prefix_rfl h.1) <|
        trans_of R (Stage.host_leave _ _) (ih h.2)
  | brokenOff _ ends =>
    exact trans_of R (Stage.host_enter _ _) (Stage.host_stateAfter ends.isPrefix h)

end Pipeline

end Host

end ReleasePipeline
