/-
What a run never takes back.

The catalog of a run is a ledger. Artifacts are added at its end, and of those that are in it one
thing may change, once: an executable that was recorded raw is marked when it has been compressed.
The variables are a ledger, too, in which a name that has a value keeps it. `ContinuesTo` says both
of an earlier and a later context. It is proved of the single changes that modules make, and since
it is transitive, it holds between any two contexts of a run, whether the modules succeed or fail
and however the run ends.

The publishing gate makes no such change. It is apart in what it does, but it leaves both ledgers
alone.
-/
import Mathlib.Data.List.Chain
import Mathlib.Data.List.Forall2
import ReleasePipeline.Proofs.Pipeline.Representation
import ReleasePipeline.Proofs.Setup.PublishGate

set_option autoImplicit false

namespace ReleasePipeline

/-! ## Artifacts -/

/-- The same file as it may be recorded later: with the same data, but perhaps compressed in the
meantime. -/
inductive Artifact.StaysAs : Artifact → Artifact → Prop
  | same (a : Artifact) : StaysAs a a
  | compressed {a : Artifact} (h : a.packing = .raw) : StaysAs a { a with packing := .upx }

/-- A file is compressed at most once, so two changes one after the other are one or none. -/
theorem Artifact.StaysAs.trans {a b c : Artifact} (hab : StaysAs a b) (hbc : StaysAs b c) :
    StaysAs a c := by
  cases hab with
  | same => exact hbc
  | compressed ha =>
    cases hbc with
    | same => exact .compressed ha
    -- what is compressed is not raw any more
    | compressed hb => cases hb

/-- Marking an artifact as compressed does nothing if it is marked already. -/
theorem Artifact.staysAs_compressed (a : Artifact) : StaysAs a { a with packing := .upx } := by
  -- a mark that is there is not made again
  cases hpacking : a.packing with
  | raw => exact .compressed hpacking
  | upx =>
    have hsame : { a with packing := .upx } = a := by rw [← hpacking]
    rw [hsame]
    exact .same a

/-- The artifacts of a list are at the front of another, each as it was or compressed. -/
def Artifact.StayIn (as bs : List Artifact) : Prop :=
  ∃ kept more, bs = kept ++ more ∧ List.Forall₂ Artifact.StaysAs as kept

namespace Artifact.StayIn

variable {as bs cs : List Artifact}

/-- Artifacts that stay in their places without others behind them stay. -/
theorem of_forall₂ (h : List.Forall₂ StaysAs as bs) : StayIn as bs :=
  ⟨bs, [], (List.append_nil bs).symm, h⟩

/-- Artifacts that are left alone stay. -/
theorem refl (as : List Artifact) : StayIn as as :=
  of_forall₂ (List.forall₂_same.mpr fun a _ => .same a)

/-- What stays as it is in a second list, which stays as it is in a third, stays as it is there. -/
theorem forall₂_trans (hab : List.Forall₂ StaysAs as bs) (hbc : List.Forall₂ StaysAs bs cs) :
    List.Forall₂ StaysAs as cs := by
  induction hab generalizing cs with
  | nil =>
    cases hbc
    exact .nil
  | cons h _ ih =>
    cases hbc with
    | cons h' hrest => exact .cons (h.trans h') (ih hrest)

/-- What is kept first stands in front of what is kept later. -/
theorem trans (hab : StayIn as bs) (hbc : StayIn bs cs) : StayIn as cs := by
  obtain ⟨kept, more, rfl, hkept⟩ := hab
  obtain ⟨kept', more', rfl, hkept'⟩ := hbc
  -- the first so many of what is kept later are what was kept first
  have hfront : List.Forall₂ StaysAs kept (kept'.take kept.length) :=
    (List.forall₂_take_append _ _ _ hkept'.flip).flip
  refine ⟨kept'.take kept.length, kept'.drop kept.length ++ more', ?_, forall₂_trans hkept hfront⟩
  rw [← List.append_assoc, List.take_append_drop]

/-- Recording artifacts behind the others leaves these where they are. -/
theorem append (as more : List Artifact) : StayIn as (as ++ more) :=
  ⟨as, more, rfl, List.forall₂_same.mpr fun a _ => .same a⟩

end Artifact.StayIn

/-! ## Contexts -/

/-- What is recorded in a context is recorded in another: the artifacts in their places, and the
variables with their values. -/
structure Context.ContinuesTo (a b : Context) : Prop where
  artifacts : Artifact.StayIn a.catalog.artifacts b.catalog.artifacts
  environment : ∀ name value, a.environment.get? name = some value →
    b.environment.get? name = some value

namespace Context

variable {a b c : Context}

/-- A context continues to itself. -/
theorem ContinuesTo.refl (a : Context) : ContinuesTo a a :=
  ⟨Artifact.StayIn.refl _, fun _ _ h => h⟩

/-- A ledger that goes on twice goes on. -/
theorem ContinuesTo.trans (hab : ContinuesTo a b) (hbc : ContinuesTo b c) : ContinuesTo a c :=
  ⟨Artifact.StayIn.trans hab.artifacts hbc.artifacts, fun name value h =>
    hbc.environment name value (hab.environment name value h)⟩

instance : Trans ContinuesTo ContinuesTo ContinuesTo := ⟨ContinuesTo.trans⟩

/-- Two of the changes are to the catalog: artifacts are recorded, or marked. -/
theorem Change.stayIn (h : Change a b) :
    Artifact.StayIn a.catalog.artifacts b.catalog.artifacts := by
  cases h with
  | record artifacts => exact Artifact.StayIn.append _ artifacts
  | pack builds skip =>
    refine Artifact.StayIn.of_forall₂
      (List.forall₂_map_right_iff.mpr (List.forall₂_same.mpr fun a _ => ?_))
    by_cases hselected : Catalog.selects builds skip a = true
    · rw [if_pos hselected]
      exact a.staysAs_compressed
    · rw [if_neg hselected]
      exact .same a
  | _ => exact Artifact.StayIn.refl _

/-- Several changes take nothing out of the catalog. -/
theorem Changes.stayIn (h : Changes a b) :
    Artifact.StayIn a.catalog.artifacts b.catalog.artifacts := by
  induction h with
  | refl => exact Artifact.StayIn.refl _
  | tail _ hchange ih => exact Artifact.StayIn.trans ih hchange.stayIn

/-- Changes leave both ledgers intact; that variables keep their values is known of them already. -/
theorem Changes.continuesTo (h : Changes a b) : ContinuesTo a b :=
  ⟨h.stayIn, fun _ _ => h.get?_of_some⟩

end Context

/-! ## Turns -/

namespace Turn

/-- Whatever a built-in module does, and whether it fails or not, both ledgers go on. -/
theorem continuesTo_outcome {t : Turn} (hbuiltIn : t.IsBuiltIn) :
    t.state.context.ContinuesTo t.outcome.context := by
  obtain ⟨b, settings, his⟩ := hbuiltIn
  rw [outcome, his.module]
  -- the gate is the one module that sets what a pipeline publishes, which is no `Change`
  by_cases hgate : b = .gate
  · subst hgate
    obtain ⟨publish, hpublish⟩ := Setup.PublishGate.exists_publish_module settings t.state.context
      (t.state.say ("----> " ++ t.module.kind)).host
    rw [BuiltInModule.module, hpublish]
    exact ⟨Artifact.StayIn.refl _, fun _ _ h => h⟩
  · exact (b.changes hgate settings _ _).continuesTo

/-- The beginning of turns that are handed on is handed on. -/
theorem Threaded.of_append {ctx : Context} {xs ys : List Turn} (h : Threaded ctx (xs ++ ys)) :
    Threaded ctx xs := by
  induction xs generalizing ctx with
  | nil => exact True.intro
  | cons x xs ih => exact ⟨h.1, ih h.2⟩

/-- Along turns, from each context to the next: from the one that a module is given to the one it
leaves, and that is the one that the next module is given. -/
theorem isChain_of_threaded {ctx : Context} {ts : List Turn} (hthreaded : Threaded ctx ts)
    (hbuiltIn : ∀ t ∈ ts, t.IsBuiltIn) :
    List.IsChain Context.ContinuesTo
      (ctx :: ts.flatMap (fun t => [t.state.context, t.outcome.context])
        ++ [contextAfter ctx ts]) := by
  induction ts generalizing ctx with
  | nil => exact List.isChain_pair.mpr (.refl ctx)
  | cons t ts ih =>
    obtain ⟨hgiven, hthreaded⟩ := hthreaded
    rw [List.forall_mem_cons] at hbuiltIn
    have hlater := ih hthreaded hbuiltIn.2
    rw [List.flatMap_cons, contextAfter]
    refine .cons_cons ?_ (.cons_cons (continuesTo_outcome hbuiltIn.1) hlater)
    rw [hgiven]
    exact .refl ctx

end Turn

/-! ## Pipelines -/

/-- A stage over the built-in registry, all of whose modules are built-in ones. -/
structure Stage.AllBuiltIn (registry : Registry) (s : Stage) : Prop where
  source : ∃ directoryName, s.source registry = .builtIn directoryName
  modules : ∀ m ∈ s.modules, ∃ b settings, BuiltInModule.Is b settings m

/-- What is found in the built-in registry is a built-in module, whatever its parameters are. -/
theorem Stage.Grows.allBuiltIn {registry : Registry} {s t : Stage} (h : Stage.Grows registry s t)
    (hs : s.AllBuiltIn registry) : t.AllBuiltIn registry := by
  induction h with
  | refl => exact hs
  | tail _ hadd ih =>
    obtain ⟨kind, key, registration, params, module, hlookup, hcreate, rfl⟩ := hadd
    refine ⟨ih.source, fun m hm => ?_⟩
    rcases List.mem_append.mp hm with hm | hm
    · exact ih.modules m hm
    · obtain ⟨directoryName, hsource⟩ := ih.source
      rw [hsource] at hlookup
      obtain ⟨b, settings, his, -⟩ := BuiltInModule.exists_is_of_made
        (m := ⟨kind, key, module⟩) ⟨registration, params, hlookup, hcreate⟩
      rw [List.mem_singleton.mp hm]
      exact ⟨b, settings, his⟩

namespace Pipeline

/-- Over the whole schedule each module is given what its predecessor left. -/
theorem Listed.threaded {stages : List Stage} {ctx : Context} {ts : List Turn}
    (h : Listed stages ctx ts) : Turn.Threaded ctx ts := by
  induction h with
  | nil => exact True.intro
  | skip _ _ ih => exact ih
  | enter _ _ _ hthreaded _ ih => exact threaded_append hthreaded ih

/-- Whatever is loaded into new stages over the built-in registry, all modules are built-in. -/
theorem isBuiltIn_of_mem_schedule_afterCalls {p : Pipeline}
    (hnew : ∀ s ∈ p.stages, s.IsNew ∧ ∃ directoryName, s.source p.registry = .builtIn directoryName)
    {calls : List LoadCall} {now : String} {st : RunState} {t : Turn}
    (ht : t ∈ (p.afterCalls calls).schedule now st) : t.IsBuiltIn := by
  have hempty : ∀ s ∈ p.stages, s.AllBuiltIn p.registry := by
    intro s hs
    refine ⟨(hnew s hs).2, fun m hm => ?_⟩
    rw [(hnew s hs).1.1] at hm
    cases hm
  have hall : ∀ s ∈ (p.afterCalls calls).stages, s.AllBuiltIn p.registry :=
    Stage.Grows.forall_of_keeps Stage.Grows.allBuiltIn (p.afterCalls_grows calls).stages hempty
  obtain ⟨hstage, hmodule⟩ := ((p.afterCalls calls).listed_schedule now st).mem ht
  exact (hall t.stage hstage).modules t.module hmodule

/-- **A run takes nothing back.** Take any stages over the built-in registry, load into them what
you like, and run the pipeline from any state; it may succeed or end anywhere. Of the contexts that
the run goes through, the first one, those that the executed modules are given and leave and the
one in the end, each continues to all that come after it. So the artifacts of the first context are
in front in the last one, each with the data it had, and with another packing only if it was raw
and was compressed; and a variable that has a value at any of these points has it at every later
one. -/
theorem run_takes_nothing_back (p : Pipeline)
    (hnew : ∀ s ∈ p.stages, s.IsNew ∧ ∃ directoryName, s.source p.registry = .builtIn directoryName)
    (calls : List LoadCall) (now : String) (st : RunState) :
    ∃ executions, ((p.afterCalls calls).run now st).1.executed = st.executed ++ executions ∧
      List.Pairwise Context.ContinuesTo
        (st.context :: executions.flatMap (fun e => [e.given, e.left])
          ++ [((p.afterCalls calls).run now st).1.context]) ∧
      st.context.ContinuesTo ((p.afterCalls calls).run now st).1.context := by
  obtain ⟨done, hends, hcontext, hexecuted⟩ := (p.afterCalls calls).run_ends now st
  obtain ⟨rest, hrest⟩ := hends.isPrefix
  -- the executed turns are the first of the schedule, and each was given what the last one left
  have hthreaded : Turn.Threaded st.context done := by
    have hall := ((p.afterCalls calls).listed_schedule now st).threaded
    rw [← hrest] at hall
    exact hall.of_append
  have hbuiltIn : ∀ t ∈ done, t.IsBuiltIn := fun t ht =>
    isBuiltIn_of_mem_schedule_afterCalls hnew (hends.isPrefix.subset ht)
  have hpairwise := (Turn.isChain_of_threaded hthreaded hbuiltIn).pairwise
  refine ⟨done.map Turn.record, hexecuted, ?_, ?_⟩
  · rw [List.flatMap_map, hcontext]
    exact hpairwise
  · rw [hcontext]
    exact (List.pairwise_cons.mp hpairwise).1 _ (List.mem_append_right _ List.mem_cons_self)

/-- A variable is set, an executable has been built, and programs end well. -/
def executableBuilt : RunState where
  context :=
    { environment := Environment.empty.set "HOME" "/home/demo"
      catalog := ⟨[{ id := "default", filename := "demo", location := ⟨"dist/demo"⟩ }]⟩ }
  host := { programs := fun _ _ files => .ok { files, status := .exited 0 } }

/-- In a run that compresses the executable it is marked, in its place, and there is nothing
else that could have changed. -/
theorem compressed_executable_stays :
    (∀ s ∈ (standard (.builtIn "demo")).stages,
      s.IsNew ∧ ∃ directoryName, s.source (.builtIn "demo") = .builtIn directoryName) ∧
    (((standard (.builtIn "demo")).afterCalls [.add 1 "upx" none false]).run "10:00"
        executableBuilt).1.context.catalog.artifacts
      = [{ id := "default", filename := "demo", location := ⟨"dist/demo"⟩, packing := .upx }] ∧
    executableBuilt.context.ContinuesTo
      (((standard (.builtIn "demo")).afterCalls [.add 1 "upx" none false]).run "10:00"
        executableBuilt).1.context := by
  have hnew : ∀ s ∈ (standard (.builtIn "demo")).stages,
      s.IsNew ∧ ∃ directoryName, s.source (.builtIn "demo") = .builtIn directoryName := by
    intro s hs
    obtain ⟨hempty, hshared⟩ := isNew_standard (.builtIn "demo") s hs
    refine ⟨hempty, "demo", ?_⟩
    rw [Stage.source, hshared]
    rfl
  obtain ⟨executions, -, -, hcontinues⟩ := run_takes_nothing_back (standard (.builtIn "demo")) hnew
    [.add 1 "upx" none false] "10:00" executableBuilt
  exact ⟨hnew, rfl, hcontinues⟩

end Pipeline

end ReleasePipeline
