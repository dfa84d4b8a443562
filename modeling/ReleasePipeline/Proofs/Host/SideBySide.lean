/-
Two runs side by side.

The artifacts of a catalog can be recorded in one order or in another, and it is asked which modules
notice. To answer that, one action is run on two contexts that differ in something of no account,
such as that order, and from one host. Both runs have to come to the same result and leave the same
host, with the same files, commands, requests and messages; and the contexts that they leave may
again differ in nothing else (`RunM.Matches`). This is more than an invariant of one run, since it
compares what two runs do, and less than equality of the actions.

The two actions compared need not be the same: an action that reads the context goes on differently,
with other artifacts in its hands, and it is for the rest to show that this makes no difference.
There is one lemma for each way of composing: `Matches.context_bind` lets the rest see two related
contexts, and `Matches.bind` goes on from one result and one host. A module all of whose actions
match is said to respect the relation (`Module.Respects`).
-/
import ReleasePipeline.Proofs.Host.Effects

set_option autoImplicit false

namespace ReleasePipeline

namespace RunM

open Effect

variable {α β : Type} {R : Context → Context → Prop}

/-- From related contexts and one host the two actions come to the same result, related contexts and
one host. -/
def Matches (R : Context → Context → Prop) (action other : RunM α) : Prop :=
  ∀ (ctx ctx' : Context) (h : Host), R ctx ctx' →
    (ExceptT.run action (ctx, h)).1 = (ExceptT.run other (ctx', h)).1 ∧
    R (ExceptT.run action (ctx, h)).2.1 (ExceptT.run other (ctx', h)).2.1 ∧
    (ExceptT.run action (ctx, h)).2.2 = (ExceptT.run other (ctx', h)).2.2

namespace Matches

/-- A result that is there already is the same in both runs. -/
theorem pure (a : α) : Matches R (Pure.pure a) (Pure.pure a) := fun _ _ _ h => ⟨rfl, h, rfl⟩

/-- What is done on the host alone is the same. -/
theorem host (action : HostM α) : Matches R (RunM.host action) (RunM.host action) :=
  fun _ _ _ h => ⟨rfl, h, rfl⟩

/-- Both contexts are changed, each by its own change, and the changes keep them related. -/
theorem update {f f' : Context → Context} (hf : ∀ ctx ctx', R ctx ctx' → R (f ctx) (f' ctx')) :
    Matches R (RunM.update f) (RunM.update f') :=
  fun ctx ctx' _ h => ⟨rfl, hf ctx ctx' h, rfl⟩

/-- What matches step by step matches as a whole. The second steps need to match only for one and
the same result of the first, and they start from one host. -/
theorem bind {action other : RunM α} {next next' : α → RunM β} (h : Matches R action other)
    (hnext : ∀ a, Matches R (next a) (next' a)) :
    Matches R (action >>= next) (other >>= next') := by
  intro ctx ctx' host hctx
  obtain ⟨hresult, hleft, hhost⟩ := h ctx ctx' host hctx
  rw [run_bind, run_bind]
  -- both first steps are carried out, and then their results and hosts are seen to be equal
  cases hrun : ExceptT.run action (ctx, host) with
  | mk r after =>
    cases hrun' : ExceptT.run other (ctx', host) with
    | mk r' after' =>
      rw [hrun, hrun'] at hresult hleft hhost
      obtain ⟨left, done⟩ := after
      obtain ⟨left', done'⟩ := after'
      dsimp only at hresult hleft hhost
      -- from here on there is one result and one host, and two contexts
      subst hresult hhost
      cases r with
      | ok a => exact hnext a left left' done hleft
      | error f => exact ⟨rfl, hleft, rfl⟩

/-- What is read may differ, as long as it is related. -/
theorem context_bind {next next' : Context → RunM α}
    (hnext : ∀ ctx ctx', R ctx ctx' → Matches R (next ctx) (next' ctx')) :
    Matches R (context >>= next) (context >>= next') :=
  fun ctx ctx' h hctx => hnext ctx ctx' hctx ctx ctx' h hctx

end Matches

end RunM

namespace Module

variable {R : Context → Context → Prop}

/-- On related contexts the module comes to the same result, and leaves one host and related
contexts. -/
def Respects (R : Context → Context → Prop) (m : Module) : Prop :=
  ∀ (ctx ctx' : Context) (h : Host), R ctx ctx' →
    (m.run ctx h).result = (m.run ctx' h).result ∧
    R (m.run ctx h).context (m.run ctx' h).context ∧
    (m.run ctx h).host = (m.run ctx' h).host

/-- What the action of a module does on related contexts, the module does. -/
theorem respects_ofSteps {action : RunM Unit} (h : RunM.Matches R action action) :
    (ofSteps action).Respects R := h

/-- A module that only reads the context has to do the same with related ones. -/
theorem respects_ofReading {action : Context → HostM Unit}
    (h : ∀ ctx ctx', R ctx ctx' → action ctx = action ctx') : (ofReading action).Respects R := by
  refine respects_ofSteps (.context_bind fun ctx ctx' hctx => ?_)
  rw [h ctx ctx' hctx]
  exact .host _

end Module

end ReleasePipeline
