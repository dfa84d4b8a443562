/-
What the metrics of a pipeline say after any runs of it, and of stages of it by themselves.

The metrics are changed in many places: where a module is executed, where a stage is skipped, on
each of the two ways out of a stage, and where a run starts. The account of a row of runs
(`History`) knows nothing of this. It has what became of the stages and which modules were executed
since the latest run of the whole pipeline, as `Goes` tells it of each run, and the metrics are
compared with the tally of that account.

Both change by small steps that can be put together: `Metrics.countAll` counts executions in bulk,
and `Accounts` says of two states that the metrics of the later one have grown by just the
executions that were recorded between the two. It is proved for one module, then for the modules of
a stage, a stage, and stages. What is left is one induction on the row of runs.
-/
import ReleasePipeline.Proofs.Pipeline.Outcomes

set_option autoImplicit false

namespace ReleasePipeline

/-! ## Counting in bulk -/

namespace Metrics

/-- How often a name has been counted, as it stands in a table: a name that was never counted is not
listed. -/
def listed (n : Nat) : Option Nat := if n = 0 then none else some n

/-- More executions of stages and modules, and more stages that were skipped. -/
def countAll (m : Metrics) (entered skipped keys : List String) : Metrics :=
  { m with
    stages := entered.foldl count m.stages
    modules := keys.foldl count m.modules
    skipped := m.skipped ++ skipped }

/-- To count nothing is to leave the metrics as they are. -/
theorem countAll_nil (m : Metrics) : m.countAll [] [] [] = m := by
  simp only [countAll, List.foldl_nil, List.append_nil]

/-- Counting twice is counting all of it once. -/
theorem countAll_countAll (m : Metrics)
    (entered skipped keys entered' skipped' keys' : List String) :
    (m.countAll entered skipped keys).countAll entered' skipped' keys'
      = m.countAll (entered ++ entered') (skipped ++ skipped') (keys ++ keys') := by
  simp only [countAll, List.foldl_append, List.append_assoc]

/-- One more of a name is one more of that name only. -/
theorem find?_count (t : Table String Nat) (name x : String) :
    (count t name).find? x = if x = name then some ((t.find? name).getD 0 + 1) else t.find? x :=
  t.find?_upsert name _ x

/-- Names counted one after the other are each counted as often as they occur. -/
theorem find?_foldl_count (names : List String) (t : Table String Nat) (x : String) :
    (names.foldl count t).find? x
      = if names.count x = 0 then t.find? x else some ((t.find? x).getD 0 + names.count x) := by
  induction names generalizing t with
  | nil => simp only [List.foldl_nil, List.count_nil, if_true]
  | cons name rest ih =>
    rw [List.foldl_cons, ih, find?_count]
    by_cases hx : x = name
    · subst hx
      rw [if_pos rfl, List.count_cons_self, if_neg (Nat.succ_ne_zero _)]
      -- the name does not come again, and then this was the last time that it is counted
      by_cases hrest : rest.count x = 0
      · rw [if_pos hrest, hrest]
      · rw [if_neg hrest, Option.getD_some, Nat.add_right_comm, Nat.add_assoc]
    · rw [if_neg hx, List.count_cons_of_ne (Ne.symm hx)]

/-- Of a table that was empty, nothing but the count is left. -/
theorem find?_foldl_count_empty (names : List String) (x : String) :
    (names.foldl count .empty).find? x = listed (names.count x) := by
  rw [find?_foldl_count, listed, Table.find?_empty, Option.getD_none, Nat.zero_add]

end Metrics

namespace Pipeline

/-! ## The account of the states of a run

`Accounts` is stated with the executions that were recorded, since the metrics are to be compared
with these. Which executions they are is left open here; `runStages_tallied` finds them to be the
turns of `Goes`. -/

/-- The stage was skipped. -/
def wasSkipped : Except RunError StageOutcome → Bool
  | .ok .skipped => true
  | _ => false

/-- The names of the stages that were entered, whether they were completed or broken off. -/
def enteredNames (outcomes : List (String × Except RunError StageOutcome)) : List String :=
  (outcomes.filter fun entry => !wasSkipped entry.2).map Prod.fst

/-- The names of the stages that were skipped. -/
def skippedNames (outcomes : List (String × Except RunError StageOutcome)) : List String :=
  (outcomes.filter fun entry => wasSkipped entry.2).map Prod.fst

/-- Between two states these stages were entered and skipped: the metrics have grown by these and by
the executions that were recorded between the two. -/
def Accounts (st left : RunState) (entered skipped : List String) : Prop :=
  ∃ new : List Execution, left.executed = st.executed ++ new ∧
    left.metrics = st.metrics.countAll entered skipped (new.map fun e => e.key.display)

/-- Nothing has happened between two states that differ in context and host only. -/
theorem Accounts.of_same {st left : RunState} (hexecuted : left.executed = st.executed)
    (hmetrics : left.metrics = st.metrics) : Accounts st left [] [] := by
  refine ⟨[], ?_, ?_⟩
  · rw [hexecuted, List.append_nil]
  · rw [hmetrics, List.map_nil, Metrics.countAll_nil]

/-- The last thing that happens to the metrics in a stage is that it is counted. -/
theorem Accounts.of_countStage {st left : RunState} {name : String}
    (hexecuted : left.executed = st.executed)
    (hmetrics : left.metrics = st.metrics.countStage name) :
    Accounts st left [name] [] := by
  refine ⟨[], ?_, ?_⟩
  · rw [hexecuted, List.append_nil]
  · rw [hmetrics]
    simp only [Metrics.countStage, Metrics.countAll, List.map_nil, List.foldl_cons, List.foldl_nil,
      List.append_nil]

/-- Accounts of two stretches of a run are put together to one of both. -/
theorem Accounts.trans {st mid left : RunState} {entered skipped entered' skipped' : List String}
    (h : Accounts st mid entered skipped) (h' : Accounts mid left entered' skipped') :
    Accounts st left (entered ++ entered') (skipped ++ skipped') := by
  obtain ⟨new, hexecuted, hmetrics⟩ := h
  obtain ⟨more, hexecuted', hmetrics'⟩ := h'
  refine ⟨new ++ more, ?_, ?_⟩
  · rw [hexecuted', hexecuted, List.append_assoc]
  · rw [hmetrics', hmetrics, Metrics.countAll_countAll, List.map_append]

/-- A module that is executed is recorded and counted, whether it succeeds or not. -/
theorem accounts_execute (s : Stage) (m : StageModule) (st : RunState) :
    Accounts st (s.execute m st).1 [] [] := by
  let t : Turn := ⟨s, m, st⟩
  have hexecuted : (s.execute m st).1.executed = st.executed ++ [t.record] := t.executed_after
  have hmetrics : (s.execute m st).1.metrics = st.metrics.countModule m.key.display := by
    unfold Stage.execute
    dsimp only
    split <;> rfl
  refine ⟨[t.record], hexecuted, hmetrics.trans ?_⟩
  simp only [Metrics.countModule, Metrics.countAll, List.map_cons, List.map_nil, List.foldl_cons,
    List.foldl_nil, List.append_nil]
  rfl

/-- A module that is refused is neither recorded nor counted. -/
theorem accounts_executeAll (registry : Registry) (loaded : KeySet ModuleKey) (s : Stage)
    (ms : List StageModule) (st : RunState) :
    Accounts st (s.executeAll registry loaded ms st).1 [] [] := by
  induction ms generalizing st with
  | nil => exact .of_same rfl rfl
  | cons m ms ih =>
    have hstep := accounts_execute s m st
    unfold Stage.executeAll
    -- refused: neither the record nor the count of it is there
    cases hmissing : (s.source registry).missing m.key loaded with
    | cons _ _ => exact .of_same rfl rfl
    | nil =>
      cases hexecute : s.execute m st with
      | mk next result =>
        rw [hexecute] at hstep
        cases result with
        | error f => exact hstep
        | ok u => exact hstep.trans (ih next)

/-- A stage is counted once as entered or once as skipped, and on every way out of it. -/
theorem accounts_run (registry : Registry) (loaded : KeySet ModuleKey) (s : Stage) (st : RunState) :
    Accounts st (s.run registry loaded st).1
      (enteredNames [(s.name, (s.run registry loaded st).2)])
      (skippedNames [(s.name, (s.run registry loaded st).2)]) := by
  by_cases hskip : s.shouldSkip st.context = true
  · have hover : Accounts st (s.passOver st) [] [s.name] :=
      ⟨[], (List.append_nil _).symm, rfl⟩
    rw [Stage.run_of_skip hskip]
    exact hover
  · have hmodules : Accounts st (s.executeAll registry loaded s.modules (s.enter st)).1 [] [] :=
      accounts_executeAll registry loaded s s.modules (s.enter st)
    rw [Stage.run_of_enter (Bool.eq_false_iff.mpr hskip)]
    cases hexecute : s.executeAll registry loaded s.modules (s.enter st) with
    | mk mid e =>
      rw [hexecute] at hmodules
      cases e with
      -- on both ways out the stage is counted last
      | none => exact hmodules.trans (.of_countStage rfl rfl)
      | some e => exact hmodules.trans (.of_countStage rfl rfl)

/-- Stages are counted as their outcomes say. -/
theorem accounts_runStages (registry : Registry) (loaded : KeySet ModuleKey) (stages : List Stage)
    (st : RunState) :
    Accounts st (runStages registry loaded stages st).1
      (enteredNames (outcomesOf registry loaded stages st))
      (skippedNames (outcomesOf registry loaded stages st)) := by
  induction stages generalizing st with
  | nil => exact .of_same rfl rfl
  | cons s rest ih =>
    have hstep := accounts_run registry loaded s st
    rw [runStages, outcomesOf]
    cases hrun : s.run registry loaded st with
    | mk next outcome =>
      rw [hrun] at hstep
      cases outcome with
      | error e => exact hstep
      | ok outcome =>
        have hboth := hstep.trans (ih next)
        simp only [enteredNames, skippedNames, ← List.map_append, ← List.filter_append] at hboth
        exact hboth

/-! ## Calls -/

/-- A call from outside: the whole pipeline is run, or a stage by itself, each on a context and a
host of the caller. Who runs a stage by itself also says what is loaded. -/
inductive RunCall where
  | whole (now : String) (context : Context) (host : Host)
  | single (s : Stage) (loaded : KeySet ModuleKey) (context : Context) (host : Host)

namespace RunCall

/-- The state after a call. Nothing but the metrics is kept between calls; the executions are
recorded all the same. A stage by itself is run as the only one of its stages. -/
def apply (p : Pipeline) (st : RunState) : RunCall → RunState
  | .whole now context host => (p.run now { st with context, host }).1
  | .single s loaded context host => (s.run p.registry loaded { st with context, host }).1

end RunCall

/-- The state after calls, from the creation of the pipeline on. -/
def afterRuns (p : Pipeline) (calls : List RunCall) : RunState :=
  calls.foldl (RunCall.apply p) {}

/-- What has happened since the latest run of the whole pipeline, or since its creation. -/
structure History where
  /-- When this run started, if there was one. -/
  startedAt : Option String := none
  /-- What became of the stages, in order. -/
  outcomes : List (String × Except RunError StageOutcome) := []
  /-- The modules that were executed, in order. -/
  done : List Turn := []

namespace History

/-- What has happened after one more stage by itself. -/
def more (h : History) (outcomes : List (String × Except RunError StageOutcome))
    (done : List Turn) : History :=
  { h with outcomes := h.outcomes ++ outcomes, done := h.done ++ done }

/-- How often a stage of the name was entered. -/
def entries (h : History) (name : String) : Nat := (enteredNames h.outcomes).count name

/-- How often a module was executed whose key is displayed so. -/
def executions (h : History) (key : String) : Nat :=
  (h.done.map fun t => t.module.key.display).count key

/-- The metrics that say just what has happened. -/
def tally (h : History) : Metrics :=
  Metrics.countAll { startedAt := h.startedAt } (enteredNames h.outcomes) (skippedNames h.outcomes)
    (h.done.map fun t => t.module.key.display)

/-- The tally of an account grows with it. -/
theorem tally_more (h : History) (outcomes : List (String × Except RunError StageOutcome))
    (done : List Turn) :
    (h.more outcomes done).tally = h.tally.countAll (enteredNames outcomes) (skippedNames outcomes)
      (done.map fun t => t.module.key.display) := by
  rw [tally, tally, Metrics.countAll_countAll]
  simp only [more, enteredNames, skippedNames, List.filter_append, List.map_append]

end History

/-- `Unfolds p st before calls after`: from the state `st` on, with what has happened before, after
these calls what has happened is `after`. A run of the whole pipeline begins anew. -/
inductive Unfolds (p : Pipeline) : RunState → History → List RunCall → History → Prop
  | nil {st : RunState} {h : History} : Unfolds p st h [] h
  | whole {st : RunState} {before after : History} {rest : List RunCall} {now : String}
      {context : Context} {host : Host}
      {outcomes : List (String × Except RunError StageOutcome)} {done : List Turn}
      (goes : Goes p.registry p.loaded p.stages { st with context, host, metrics := .start now }
        outcomes done (RunCall.apply p st (.whole now context host)))
      (later : Unfolds p (RunCall.apply p st (.whole now context host)) ⟨some now, outcomes, done⟩
        rest after) :
      Unfolds p st before (.whole now context host :: rest) after
  | single {st : RunState} {before after : History} {rest : List RunCall} {s : Stage}
      {loaded : KeySet ModuleKey} {context : Context} {host : Host}
      {outcomes : List (String × Except RunError StageOutcome)} {done : List Turn}
      (goes : Goes p.registry loaded [s] { st with context, host } outcomes done
        (RunCall.apply p st (.single s loaded context host)))
      (later : Unfolds p (RunCall.apply p st (.single s loaded context host))
        (before.more outcomes done) rest after) :
      Unfolds p st before (.single s loaded context host :: rest) after

/-! ### Stages by themselves -/

/-- A stage by itself is the only one of its stages. -/
theorem fst_runStages_singleton (registry : Registry) (loaded : KeySet ModuleKey) (s : Stage)
    (st : RunState) : (runStages registry loaded [s] st).1 = (s.run registry loaded st).1 := by
  rw [runStages]
  cases s.run registry loaded st with
  | mk left outcome => cases outcome <;> rfl

/-- Stages are gone through, and the metrics grow by what is done there. -/
theorem runStages_tallied (registry : Registry) (loaded : KeySet ModuleKey) (stages : List Stage)
    (st : RunState) :
    ∃ outcomes done, Goes registry loaded stages st outcomes done
        (runStages registry loaded stages st).1 ∧
      (runStages registry loaded stages st).1.metrics
        = st.metrics.countAll (enteredNames outcomes) (skippedNames outcomes)
          (done.map fun t => t.module.key.display) := by
  obtain ⟨done, hgoes, -, hexecuted⟩ := runStages_goes registry loaded stages st
  obtain ⟨new, hexecuted', hmetrics⟩ := accounts_runStages registry loaded stages st
  -- what was recorded is what was done
  have hnew : new = done.map Turn.record :=
    List.append_cancel_left (hexecuted'.symm.trans hexecuted)
  refine ⟨_, done, hgoes, ?_⟩
  rw [hmetrics, hnew, List.map_map]
  rfl

/-- Calls leave no choice in what has happened after them. -/
theorem Unfolds.unique {p : Pipeline} {st : RunState} {calls : List RunCall}
    {before after after' : History} (h : Unfolds p st before calls after)
    (h' : Unfolds p st before calls after') : after = after' := by
  induction h generalizing after' with
  | nil =>
    cases h'
    rfl
  | whole goes _ ih =>
    cases h' with
    | whole goes' later =>
      obtain ⟨rfl, rfl⟩ := goes.unique goes'
      exact ih later
  | single goes _ ih =>
    cases h' with
    | single goes' later =>
      obtain ⟨rfl, rfl⟩ := goes.unique goes'
      exact ih later

/-! ## The metrics after calls -/

/-- If the metrics are the tally before calls, they are the tally after them. -/
theorem exists_unfolds (p : Pipeline) (calls : List RunCall) (st : RunState) (before : History)
    (hbefore : st.metrics = before.tally) :
    ∃ after, Unfolds p st before calls after ∧
      (calls.foldl (RunCall.apply p) st).metrics = after.tally ∧
      (after.startedAt.isSome = true ↔
        before.startedAt.isSome = true ∨ ∃ now context host, .whole now context host ∈ calls) := by
  induction calls generalizing st before with
  | nil =>
    refine ⟨before, .nil, hbefore, ?_⟩
    simp only [List.not_mem_nil, exists_false, or_false]
  | cons call rest ih =>
    rw [List.foldl_cons]
    cases call with
    -- a run of the whole pipeline begins a new account, whatever was there before
    | whole now context host =>
      obtain ⟨outcomes, done, hgoes, hmetrics⟩ := runStages_tallied p.registry p.loaded p.stages
        { st with context, host, metrics := .start now }
      obtain ⟨after, hunfolds, htally, hstarted⟩ :=
        ih (RunCall.apply p st (.whole now context host)) ⟨some now, outcomes, done⟩ hmetrics
      refine ⟨after, .whole hgoes hunfolds, htally, hstarted.trans ?_⟩
      exact iff_of_true (.inl rfl) (.inr ⟨now, context, host, List.mem_cons_self⟩)
    -- a stage by itself is added to the account that there is
    | single s loaded context host =>
      obtain ⟨outcomes, done, hgoes, hmetrics⟩ :=
        runStages_tallied p.registry loaded [s] { st with context, host }
      rw [fst_runStages_singleton] at hgoes hmetrics
      have hmore : (RunCall.apply p st (.single s loaded context host)).metrics
          = (before.more outcomes done).tally := by
        rw [History.tally_more, ← hbefore]
        exact hmetrics
      obtain ⟨after, hunfolds, htally, hstarted⟩ :=
        ih (RunCall.apply p st (.single s loaded context host)) (before.more outcomes done) hmore
      refine ⟨after, .single hgoes hunfolds, htally, hstarted.trans ?_⟩
      simp only [History.more, List.mem_cons, reduceCtorEq, false_or]

/-- **The metrics count the latest run, and nothing else.** After any calls, each of which runs the
whole pipeline or a stage by itself and may end in any way, there is one account of what has
happened since the latest run of the whole pipeline began, or since the creation of the pipeline if
there was none. A stage name is listed with the number of times that a stage of that name was
entered, whether it was completed or broken off; the text of a key is listed with the number of
modules executed whose key is displayed so, whether they succeeded or failed, and a module that was
refused is not among them; names and keys that would be listed with zero are not listed. The skipped
stages are listed in order, and a start is given exactly if some call ran the whole pipeline. -/
theorem metrics_afterRuns (p : Pipeline) (calls : List RunCall) :
    ∃ h : History, Unfolds p {} {} calls h ∧ (∀ h', Unfolds p {} {} calls h' → h' = h) ∧
      (∀ name, (p.afterRuns calls).metrics.stages.find? name
        = Metrics.listed (h.entries name)) ∧
      (∀ key, (p.afterRuns calls).metrics.modules.find? key
        = Metrics.listed (h.executions key)) ∧
      (p.afterRuns calls).metrics.skipped = skippedNames h.outcomes ∧
      (p.afterRuns calls).metrics.startedAt = h.startedAt ∧
      ((p.afterRuns calls).metrics.startedAt.isSome = true ↔
        ∃ now context host, .whole now context host ∈ calls) := by
  obtain ⟨h, hunfolds, htally, hstarted⟩ := exists_unfolds p calls {} {} rfl
  refine ⟨h, hunfolds, fun h' hunfolds' => hunfolds'.unique hunfolds, ?_⟩
  have hmetrics : (p.afterRuns calls).metrics = h.tally := htally
  rw [hmetrics]
  refine ⟨fun name => ?_, fun key => ?_, List.nil_append _, rfl, ?_⟩
  · exact Metrics.find?_foldl_count_empty _ name
  · exact Metrics.find?_foldl_count_empty _ key
  · refine hstarted.trans (or_iff_right ?_)
    exact Bool.false_ne_true

end Pipeline

end ReleasePipeline
