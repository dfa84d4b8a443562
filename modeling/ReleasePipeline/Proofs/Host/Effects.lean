/-
What actions leave as it was.

A module is a list of actions, and any of them may fail: a file cannot be read, `go` ends with a
status other than zero, a server does not answer. What was done before stays done. So what is said
of the state is said of both ends: `Effect.Keeps R` relates the state before to the state after,
whether the action failed or not, and it does not matter how far it came. It is proved of a composed
action from its parts, by one lemma for each way of composing: `Keeps.bind` for one action after
another, `Keeps.tryCatch` for a failure that is told with what was being done. All that a relation
has to bring along is that it is reflexive and transitive.

On the host the relations are those of `Host.Frame`, which pass over files and output. What is left
to be looked at are the programs that are started and the requests that are sent, and these are the
two things that not every module may do. Every action of `HostM` has its lemma here, so that a
module is gone through without unfolding what it calls.

Of an action on the context it can be said, too, that a failure leaves the context as it was
(`RunM.AllOrNothing`). It is true of an action that works on the host as long as it likes and
changes the context in its last step.
-/
import Mathlib.Order.Defs.Unbundled
import ReleasePipeline.Registry

set_option autoImplicit false

namespace ReleasePipeline

namespace Effect

variable {ε σ α β : Type} {R : σ → σ → Prop}

/-- The state before and the state after are related, whether the action fails or not. -/
def Keeps (R : σ → σ → Prop) (action : ExceptT ε (StateM σ) α) : Prop :=
  ∀ s, R s (ExceptT.run action s).2

/-! ## How composed actions run -/

/-- The second action starts where the first one ended, and it starts only if that did not fail. All
lemmas on composed actions go through this one. -/
theorem run_bind (action : ExceptT ε (StateM σ) α) (next : α → ExceptT ε (StateM σ) β) (s : σ) :
    ExceptT.run (action >>= next) s =
      match ExceptT.run action s with
      | (.ok a, after) => ExceptT.run (next a) after
      | (.error f, after) => (.error f, after) := by
  -- the monad's own bind, with the state brought to the outside
  change (match ExceptT.run action s with | (r, after) => ExceptT.bindCont next r after) = _
  cases ExceptT.run action s with
  | mk r after => cases r <;> rfl

/-- The handler starts from what the failed action left: catching a failure takes nothing back. -/
theorem run_tryCatch (action : ExceptT ε (StateM σ) α) (handler : ε → ExceptT ε (StateM σ) α)
    (s : σ) :
    ExceptT.run (tryCatch action handler) s =
      match ExceptT.run action s with
      | (.ok a, after) => (.ok a, after)
      | (.error f, after) => ExceptT.run (handler f) after := by
  rw [ExceptT.run_tryCatch]
  change StateT.bind (ExceptT.run action) _ s = _
  rw [StateT.bind]
  cases ExceptT.run action s with
  | mk r after => cases r <;> rfl

/-- What is read is the state as it is. -/
theorem run_get_bind (next : σ → ExceptT ε (StateM σ) α) (s : σ) :
    ExceptT.run (MonadState.get >>= next) s = ExceptT.run (next s) s :=
  rfl

/-- What comes after starts from the state that was set. -/
theorem run_set_bind (t : σ) (next : PUnit → ExceptT ε (StateM σ) α) (s : σ) :
    ExceptT.run (set t >>= next) s = ExceptT.run (next ⟨⟩) t :=
  rfl

/-! ## What is kept

One lemma for each way of composing. The leaves do nothing to the state, and there reflexivity is
enough; where one action follows another, transitivity joins what the two have kept. -/

namespace Keeps

/-- A result that is there already costs no change. -/
theorem pure [IsPreorder σ R] (a : α) : Keeps R (Pure.pure a : ExceptT ε (StateM σ) α) :=
  fun s => refl_of R s

/-- To fail changes nothing by itself. -/
theorem throw [IsPreorder σ R] (f : ε) :
    Keeps R (MonadExcept.throw f : ExceptT ε (StateM σ) α) :=
  fun s => refl_of R s

/-- Reading the state leaves it as it is. -/
theorem get [IsPreorder σ R] : Keeps R (MonadState.get : ExceptT ε (StateM σ) σ) :=
  fun s => refl_of R s

/-- A change keeps what it keeps of every state; nothing is known of the state that it meets. -/
theorem modify {f : σ → σ} (h : ∀ s, R s (f s)) :
    Keeps R (modify f : ExceptT ε (StateM σ) PUnit) :=
  h

/-- What both actions keep, their sequence keeps. If the first one fails, the second one is not
reached, and what the first one has kept is all that is asked for. -/
theorem bind [IsPreorder σ R] {action : ExceptT ε (StateM σ) α}
    {next : α → ExceptT ε (StateM σ) β} (h : Keeps R action) (hnext : ∀ a, Keeps R (next a)) :
    Keeps R (action >>= next) := by
  intro s
  have hs := h s
  rw [run_bind]
  cases hrun : ExceptT.run action s with
  | mk r after =>
    rw [hrun] at hs
    cases r with
    | ok a => exact trans_of R hs (hnext a after)
    | error f => exact hs

/-- What an action and the handler of its failures keep, the two together keep. -/
theorem tryCatch [IsPreorder σ R] {action : ExceptT ε (StateM σ) α}
    {handler : ε → ExceptT ε (StateM σ) α} (h : Keeps R action)
    (hhandler : ∀ f, Keeps R (handler f)) : Keeps R (MonadExcept.tryCatch action handler) := by
  intro s
  have hs := h s
  rw [run_tryCatch]
  cases hrun : ExceptT.run action s with
  | mk r after =>
    rw [hrun] at hs
    cases r with
    | ok a => exact hs
    -- the handler starts from what the action did before it failed
    | error f => exact trans_of R hs (hhandler f after)

end Keeps

/-- No relation at all. -/
instance isPreorder_true : IsPreorder σ fun _ _ => True where
  refl _ := trivial
  trans _ _ _ _ _ := trivial

end Effect

/-! ## The host -/

/-- A relation between the host before and the host after, for which files and output are of no
account. -/
class Host.Frame (R : Host → Host → Prop) : Prop extends IsPreorder Host R where
  files : ∀ (h : Host) (files : Files), R h { h with files }
  say : ∀ (h : Host) (o : Output), R h (h.say o)

/-- The relation passes over the start of a program. -/
def Host.Starts (R : Host → Host → Prop) (c : Command) : Prop :=
  ∀ (h : Host) (files : Files), R h { h with files, commands := h.commands ++ [c] }

/-- The relation passes over requests that are sent. -/
def Host.Sends (R : Host → Host → Prop) : Prop :=
  ∀ (h : Host) (r : Request), R h { h with requests := h.requests ++ [r] }

/-- No request is sent, and of every command that is started in between something holds. -/
structure Host.OnlyStarts (P : Command → Prop) (before after : Host) : Prop where
  requests : after.requests = before.requests
  commands : ∃ started, after.commands = before.commands ++ started ∧ ∀ c ∈ started, P c

instance {P : Command → Prop} : Host.Frame (Host.OnlyStarts P) where
  refl h := ⟨rfl, [], (List.append_nil _).symm, nofun⟩
  trans := by
    rintro a b c ⟨hrequests, started, hstarted, hall⟩ ⟨hrequests', more, hmore, hall'⟩
    -- the commands of the second stretch follow those of the first
    refine ⟨hrequests'.trans hrequests, started ++ more, ?_,
      List.forall_mem_append.mpr ⟨hall, hall'⟩⟩
    rw [hmore, hstarted, List.append_assoc]
  files h _ := ⟨rfl, [], (List.append_nil _).symm, nofun⟩
  say h _ := ⟨rfl, [], (List.append_nil _).symm, nofun⟩

/-- A program may be started if what is asked of every command holds of it. -/
theorem Host.starts_onlyStarts {P : Command → Prop} {c : Command} (h : P c) :
    Host.Starts (Host.OnlyStarts P) c :=
  fun _ _ => ⟨rfl, [c], rfl, List.forall_mem_singleton.mpr h⟩

namespace HostM

open Effect

variable {α β : Type} {R : Host → Host → Prop}

section Failing

variable [IsPreorder Host R]

/-- A failure with a cause is a failure. -/
theorem keeps_fail (cause : Cause) : Keeps R (fail cause : HostM α) := Keeps.throw _

/-- Naming what was being done, as in `Failed to create target directory: dist`, changes the failure
and not the host. -/
theorem keeps_during (activity : Activity) {action : HostM α} (h : Keeps R action) :
    Keeps R (during activity action) :=
  h.tryCatch fun _ => Keeps.throw _

/-- Taking over the outcome of a pure step does nothing to the host, whether the step succeeded or
not. -/
theorem keeps_lift {ε : Type} (cause : ε → Cause) (outcome : Except ε α) :
    Keeps R (lift cause outcome) := by
  cases outcome with
  | ok a => exact Keeps.pure a
  | error e => exact keeps_fail _

/-- The same of a step that explains its failures itself, such as the making of a plan for an
archive. -/
theorem keeps_ofExcept (outcome : Except Failure α) : Keeps R (ofExcept outcome) := by
  cases outcome with
  | ok a => exact Keeps.pure a
  | error f => exact Keeps.throw f

/-- What comes after a pure step is looked at only if the step succeeded. -/
theorem keeps_ofExcept_bind {outcome : Except Failure α} {next : α → HostM β}
    (hnext : ∀ a, outcome = .ok a → Keeps R (next a)) : Keeps R (ofExcept outcome >>= next) := by
  cases outcome with
  | ok a => exact hnext a rfl
  | error f => exact Keeps.throw f

/-- A question to the file system is answered without changing it. -/
theorem keeps_query (question : Files → Except IoError α) : Keeps R (query question) :=
  Keeps.get.bind fun _ => keeps_lift _ _

end Failing

variable [Host.Frame R]

/-- A log event is output, and a frame passes over output. -/
theorem keeps_log (e : LogEvent) : Keeps R (log e) := fun h => Host.Frame.say h _

/-- So is a message on the level of information. -/
theorem keeps_info (source message : String) : Keeps R (info source message) := keeps_log _

/-- And so is a warning, with whatever fields it has. -/
theorem keeps_warn (source message : String) (fields : List (String × String)) :
    Keeps R (warn source message fields) :=
  keeps_log _

/-! ### Files

Files are of no account to a frame, so every change of files is kept; but the way to a change may
break off, and then nothing has been changed. -/

/-- A change of the files that may be refused. If it is, they stay as they are. -/
theorem keeps_change (step : Files → Except IoError Files) : Keeps R (change step) :=
  (keeps_query step).bind fun files => Keeps.modify fun h => Host.Frame.files h files

/-- A directory with those above it. If one of them cannot be created, those before it stay, which
is a change of files as well. -/
theorem keeps_createDirectories (p : Path) : Keeps R (createDirectories p) := by
  refine Keeps.get.bind fun h => ?_
  split
  · exact Keeps.modify fun h => Host.Frame.files h _
  · exact (Keeps.modify fun h => Host.Frame.files h _).bind fun _ => keeps_fail _

/-- The directory that a file is put in. Nothing is done for a file without one, or in the working
directory. -/
theorem keeps_createParentDuring (activity : Path → Activity) (p : Path) :
    Keeps R (createParentDuring activity p) := by
  unfold createParentDuring
  split
  · exact Keeps.pure _
  · split
    · exact Keeps.pure _
    · exact keeps_during _ (keeps_createDirectories _)

/-- The same with the message that is usual. -/
theorem keeps_createParent (p : Path) : Keeps R (createParent p) := keeps_createParentDuring _ p

/-- A file that is read as text may hold bytes that are none; then the reading fails. -/
theorem keeps_readText (p : Path) : Keeps R (readText p) := by
  refine (keeps_query _).bind fun content => ?_
  split
  · exact Keeps.pure _
  · exact keeps_fail _

/-! ### Programs -/

variable {c : Command}

/-- Starting a program is all that the relation has to pass over. -/
theorem keeps_startProgram (hstart : Host.Starts R c) : Keeps R (startProgram c) := by
  intro h
  rw [startProgram, run_get_bind]
  dsimp only
  -- the program cannot be started at all, or it was started and has ended somehow
  split
  · exact keeps_during _ (keeps_fail _) h
  · exact hstart h _

/-- A program whose output is shown to the user. After its start there is only output to come, and
the failure if it ended with a status other than zero. -/
theorem keeps_runProgram (hstart : Host.Starts R c) : Keeps R (runProgram c) := by
  refine (keeps_startProgram hstart).bind fun result => ?_
  refine Keeps.bind (Keeps.modify fun h => ?_) fun _ => ?_
  · exact trans_of R (Host.Frame.say h _) (Host.Frame.say _ _)
  · split
    · exact Keeps.pure _
    · exact keeps_fail _

/-- A program whose output is kept, as that of `git`. -/
theorem keeps_captureProgram (hstart : Host.Starts R c) : Keeps R (captureProgram c) := by
  refine (keeps_startProgram hstart).bind fun result => ?_
  split
  · exact Keeps.pure _
  · exact keeps_fail _

end HostM

/-! ## The context

A module works on the context and on the host. A relation for each of them makes one for both
(`RunM.Both`), and what an action does to one side is kept on the other for nothing. -/

namespace RunM

open Effect

variable {α : Type} {Rc : Context → Context → Prop} {Rh : Host → Host → Prop}

/-- A relation for the context and one for the host. -/
def Both (Rc : Context → Context → Prop) (Rh : Host → Host → Prop) (a b : Context × Host) : Prop :=
  Rc a.1 b.1 ∧ Rh a.2 b.2

variable [IsPreorder Context Rc] [IsPreorder Host Rh]

instance : IsPreorder (Context × Host) (Both Rc Rh) where
  refl a := ⟨refl_of Rc a.1, refl_of Rh a.2⟩
  trans _ _ _ h₁ h₂ := ⟨trans_of Rc h₁.1 h₂.1, trans_of Rh h₁.2 h₂.2⟩

omit [IsPreorder Host Rh] in
/-- An action on the host keeps what it keeps there, and the context is as it was. -/
theorem keeps_host {action : HostM α} (h : Keeps Rh action) :
    Keeps (Both Rc Rh) (RunM.host action) :=
  fun s => ⟨refl_of Rc s.1, h s.2⟩

omit [IsPreorder Context Rc] in
/-- A change of the context keeps what it keeps there, and the host is as it was. -/
theorem keeps_update {f : Context → Context} (h : ∀ ctx, Rc ctx (f ctx)) :
    Keeps (Both Rc Rh) (update f) :=
  fun s => ⟨h s.1, refl_of Rh s.2⟩

/-- Reading the context changes neither. -/
theorem keeps_context : Keeps (Both Rc Rh) context := Keeps.get.bind fun _ => Keeps.pure _

/-- What is done with the context is done with the context as it is. -/
theorem run_context_bind (next : Context → RunM α) (s : Context × Host) :
    ExceptT.run (context >>= next) s = ExceptT.run (next s.1) s := rfl

/-- An action on the host leaves the context alone. -/
theorem run_host (action : HostM α) (s : Context × Host) :
    ExceptT.run (RunM.host action) s
      = ((ExceptT.run action s.2).1, (s.1, (ExceptT.run action s.2).2)) := rfl

/-! ### All or nothing

For most modules the context is changed once and last, when all work on files and programs is done.
`AllOrNothing P ctx` follows such an action from the front: as long as it is at work on the host, a
failure leaves the context that it was given. -/

/-- Given a context, the action is all or nothing. If it succeeds, `P` holds of the context that it
leaves, and if it fails, it leaves the context as it was. -/
def AllOrNothing (P : Context → Prop) (ctx : Context) (action : RunM α) : Prop :=
  ∀ host, match ExceptT.run action (ctx, host) with
    | (.ok _, after) => P after.1
    | (.error _, after) => after.1 = ctx

section AllOrNothing

variable {β : Type} {P : Context → Prop} {ctx : Context}

/-- An action that is over has left the context as it is. -/
theorem allOrNothing_pure {a : α} (h : P ctx) : AllOrNothing P ctx (Pure.pure a) := fun _ => h

/-- Work on the host, and then nothing more: whether it fails or not, the context is as it was. -/
theorem allOrNothing_host (action : HostM α) (h : P ctx) :
    AllOrNothing P ctx (RunM.host action) := by
  intro host
  rw [run_host]
  cases ExceptT.run action host with
  | mk r after =>
    cases r with
    | ok a => exact h
    | error f => rfl

/-- A failure by decision, as for a setting that makes no sense. -/
theorem allOrNothing_fail (cause : Cause) :
    AllOrNothing P ctx (RunM.host (HostM.fail cause : HostM α)) := fun _ => rfl

/-- As long as only the host is dealt with, a failure costs nothing. -/
theorem allOrNothing_host_bind {action : HostM α} {next : α → RunM β}
    (h : ∀ a, AllOrNothing P ctx (next a)) : AllOrNothing P ctx (RunM.host action >>= next) := by
  intro host
  rw [run_bind, run_host]
  cases ExceptT.run action host with
  | mk r after =>
    cases r with
    | ok a => exact h a after
    | error f => rfl

/-- The context that is read is the one that was given, since nothing has changed it yet. -/
theorem allOrNothing_context_bind {next : Context → RunM α} (h : AllOrNothing P ctx (next ctx)) :
    AllOrNothing P ctx (context >>= next) := h

/-- The change of the context, which cannot fail, as the last step. -/
theorem allOrNothing_update {f : Context → Context} (h : P (f ctx)) :
    AllOrNothing P ctx (update f) := fun _ => h

/-- After the context was changed there may be a message, which does not fail. -/
theorem allOrNothing_update_info {f : Context → Context} (source message : String)
    (h : P (f ctx)) :
    AllOrNothing P ctx (update f >>= fun _ => RunM.host (HostM.info source message)) := fun _ => h

end AllOrNothing

end RunM

namespace Module

open Effect

variable {Rc : Context → Context → Prop} {Rh : Host → Host → Prop}

/-- How the module leaves the context it is given, and the host, whether it fails or not. -/
def Leaves (Rc : Context → Context → Prop) (Rh : Host → Host → Prop) (m : Module)
    (ctx : Context) : Prop :=
  ∀ h, Rc ctx (m.run ctx h).context ∧ Rh h (m.run ctx h).host

/-- The three parts of what a run of the module comes to, read off the run of its action. -/
theorem run_ofSteps (action : RunM Unit) (ctx : Context) (h : Host) :
    (ofSteps action).run ctx h
      = ⟨(ExceptT.run action (ctx, h)).1, (ExceptT.run action (ctx, h)).2.1,
          (ExceptT.run action (ctx, h)).2.2⟩ := rfl

/-- What the action keeps from each host on, the module keeps. -/
theorem leaves_ofSteps {action : RunM Unit} {ctx : Context}
    (h : ∀ host, RunM.Both Rc Rh (ctx, host) (ExceptT.run action (ctx, host)).2) :
    (ofSteps action).Leaves Rc Rh ctx :=
  h

/-- A module that only reads the context does to the host what its action does. -/
theorem leaves_ofReading [IsPreorder Context Rc] {action : Context → HostM Unit} {ctx : Context}
    (h : Keeps Rh (action ctx)) : (ofReading action).Leaves Rc Rh ctx :=
  fun host => ⟨refl_of Rc ctx, h host⟩

/-- If the module fails, it leaves the context as it was. -/
def FailsCleanly (m : Module) (ctx : Context) : Prop :=
  ∀ (h : Host) (f : Failure), (m.run ctx h).result = .error f → (m.run ctx h).context = ctx

/-- That is so of a module whose action is all or nothing, whatever it does when it succeeds. -/
theorem failsCleanly_ofSteps {P : Context → Prop} {action : RunM Unit} {ctx : Context}
    (hrun : RunM.AllOrNothing P ctx action) : (ofSteps action).FailsCleanly ctx := by
  intro h f hfail
  have hleft := hrun h
  rw [run_ofSteps] at hfail ⊢
  cases hends : ExceptT.run action (ctx, h) with
  | mk r after =>
    rw [hends] at hfail hleft
    cases hfail
    exact hleft

/-- A module that only reads the context cannot leave another one. -/
theorem failsCleanly_ofReading (action : Context → HostM Unit) (ctx : Context) :
    (ofReading action).FailsCleanly ctx := fun _ _ _ => rfl

end Module

end ReleasePipeline
