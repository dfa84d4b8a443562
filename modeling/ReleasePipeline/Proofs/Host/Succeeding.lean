/-
What a success says of the steps that led to it.

A composed action succeeds only if each of its steps does, and each step starts from the host that
the one before it left. So a run that ended well is taken apart from its front
(`Effect.exists_of_run_bind_ok`): there is one lemma for each way of composing, and one for each
action on the files, which tells what became of them. This is how `build:zip` and `build:tar` are
read, whose success says that every archive was written.

Whether it ended well or not, an action that does no more than create directories has written no
file (`HostM.filesGrow_createParent`).
-/
import ReleasePipeline.Proofs.Files.Growth
import ReleasePipeline.Proofs.Host.Effects

set_option autoImplicit false

namespace ReleasePipeline

/-- If an action succeeds that goes on from another, so did the other. -/
theorem Effect.exists_of_run_bind_ok {ε σ α β : Type} {action : ExceptT ε (StateM σ) α}
    {next : α → ExceptT ε (StateM σ) β} {b : β} {s after : σ}
    (h : ExceptT.run (action >>= next) s = (.ok b, after)) :
    ∃ a middle, ExceptT.run action s = (.ok a, middle) ∧
      ExceptT.run (next a) middle = (.ok b, after) := by
  rw [run_bind] at h
  cases hrun : ExceptT.run action s with
  | mk r middle =>
    rw [hrun] at h
    cases r with
    | error f => cases h
    | ok a => exact ⟨a, middle, rfl, h⟩

/-- An action on the host succeeds as such, and leaves the context alone. -/
theorem RunM.of_run_host_ok {α : Type} {action : HostM α} {a : α} {s after : Context × Host}
    (hrun : ExceptT.run (RunM.host action) s = (.ok a, after)) :
    ExceptT.run action s.2 = (.ok a, after.2) ∧ after.1 = s.1 := by
  rw [run_host] at hrun
  obtain ⟨hresult, rfl⟩ := Prod.mk.inj hrun
  exact ⟨Prod.ext hresult rfl, rfl⟩

/-- A change of the context always succeeds, and leaves the host alone. -/
theorem RunM.of_run_update_ok {f : Context → Context} {u : Unit} {s after : Context × Host}
    (hrun : ExceptT.run (RunM.update f) s = (.ok u, after)) : after = (f s.1, s.2) :=
  (Prod.mk.inj hrun).2.symm

namespace HostM

open Effect

variable {α ε : Type} {a : α} {h after : Host}

/-- A success is the same whether or not it was said what was being done. -/
theorem run_of_run_during_ok {activity : Activity} {action : HostM α}
    (hrun : ExceptT.run (during activity action) h = (.ok a, after)) :
    ExceptT.run action h = (.ok a, after) := by
  rw [during, run_tryCatch] at hrun
  cases haction : ExceptT.run action h with
  | mk r middle =>
    rw [haction] at hrun
    cases r with
    | error f => cases hrun
    | ok b => exact hrun

/-- A pure step that succeeded had that outcome, and the host was not touched. -/
theorem of_run_lift_ok {cause : ε → Cause} {outcome : Except ε α}
    (hrun : ExceptT.run (lift cause outcome) h = (.ok a, after)) : outcome = .ok a ∧ after = h := by
  cases outcome with
  | error e => cases hrun
  | ok b =>
    cases hrun
    exact ⟨rfl, rfl⟩

/-- The same of a step that explains its failures itself. -/
theorem of_run_ofExcept_ok {outcome : Except Failure α}
    (hrun : ExceptT.run (ofExcept outcome) h = (.ok a, after)) : outcome = .ok a ∧ after = h := by
  cases outcome with
  | error f => cases hrun
  | ok b =>
    cases hrun
    exact ⟨rfl, rfl⟩

/-! ## Files

From the action on the host to the operation on the tree, which the lemmas on trees are about. -/

/-- A change that is not refused does to the files what it says. -/
theorem files_of_run_change_ok {step : Files → Except IoError Files} {u : Unit}
    (hrun : ExceptT.run (change step) h = (.ok u, after)) : step h.files = .ok after.files := by
  obtain ⟨files, middle, hquery, hset⟩ := exists_of_run_bind_ok hrun
  rw [query, run_get_bind] at hquery
  obtain ⟨hstep, rfl⟩ := of_run_lift_ok hquery
  cases hset
  exact hstep

end HostM

/-- The files grew, and were written at places of which `Written` holds. -/
def Host.FilesGrow (Written : Place → Prop) (before after : Host) : Prop :=
  before.files.Grows Written after.files

namespace HostM

open Effect

variable {Written : Place → Prop}

instance : IsPreorder Host (Host.FilesGrow Written) where
  refl h := .refl h.files
  trans _ _ _ h₁ h₂ := h₁.trans h₂

/-- Creating directories writes no file, whether it fails or not. -/
theorem filesGrow_createDirectories (p : Path) :
    Keeps (Host.FilesGrow Written) (createDirectories p) := by
  intro h
  have hgrows : h.files.Grows Written _ := Files.grows_createDirectories h.files p
  rw [createDirectories, run_get_bind]
  split
  · next files hcreate =>
    rw [hcreate] at hgrows
    exact hgrows
  · next files e hcreate =>
    rw [hcreate] at hgrows
    exact hgrows

/-- So creating the directory for a file does not write any file either, and the handler that names
what was being done only fails again. -/
theorem filesGrow_createParent (p : Path) : Keeps (Host.FilesGrow Written) (createParent p) := by
  unfold createParent createParentDuring
  split
  · exact Keeps.pure _
  · split
    · exact Keeps.pure _
    · exact (filesGrow_createDirectories _).tryCatch fun _ => Keeps.throw _

end HostM

end ReleasePipeline
