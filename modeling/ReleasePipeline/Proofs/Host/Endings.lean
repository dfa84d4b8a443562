/-
How actions on the host end, and what they leave.

A program that is to be run ends well, or badly, or is never started (`Ending`): it may not be found
along `PATH`, or an argument may hold a character that none can hold. Only what was started stands
in the record of the commands, also if it ended badly, and only what was started can have changed
the files (`Host.Runs`). Running one succeeds exactly if it ends well (`HostM.ends_runProgram`). So
the record alone does not tell of a build that failed whether its compiler ran, and the three
endings are kept apart for that reason.

The directory that a file is to be put in may not be created in full, because a file is in the way.
Then there is no file of that name (`HostM.isFile_of_run_createParent_error`), and no program was
started for it.
-/
import ReleasePipeline.Proofs.Files.Absence
import ReleasePipeline.Proofs.Host.Effects

set_option autoImplicit false

namespace ReleasePipeline

/-- How it ends if something is to be done that may need a program. -/
inductive Ending where
  | well
  | badly
  /-- The program was not started. -/
  | never
  deriving DecidableEq

/-- What was started of what was to be run. -/
def Ending.started (ending : Ending) (c : Command) : List Command :=
  match ending with
  | .never => []
  | .well | .badly => [c]

/-- Of a command that is to be run and others after it, what is started is a beginning. -/
theorem Ending.started_isPrefix (ending : Ending) (c : Command) (later : List Command) :
    ending.started c <+: c :: later := by
  cases ending with
  | never => exact List.nil_prefix
  | well | badly => exact List.prefix_append [c] later

namespace Host

variable {h after : Host} {c : Command} {ending : Ending}

/-- What comes of a call. -/
def answer (h : Host) (c : Command) : Except IoError ProgramResult :=
  if c.holdsNul then .error .nulInCommand else h.programs h.commands c h.files

/-- The host after a program was called, which did this. -/
def called (h : Host) (c : Command) (did : ProgramResult) : Host :=
  ({ h with files := did.files, commands := h.commands ++ [c] }.say (.stdout did.stdout)).say
    (.stderr did.stderr)

/-- How a program that is to be run ends, and what it leaves. -/
inductive Runs (h : Host) (c : Command) : Ending → Host → Prop
  | never {e : IoError} (refused : h.answer c = .error e) : Runs h c .never h
  | well {did : ProgramResult} (answered : h.answer c = .ok did)
    (success : did.status.isSuccess = true) : Runs h c .well (h.called c did)
  | badly {did : ProgramResult} (answered : h.answer c = .ok did)
    (failure : did.status.isSuccess = false) : Runs h c .badly (h.called c did)

/-- The record has grown by the command, if it was started. -/
theorem Runs.commands (hruns : h.Runs c ending after) :
    after.commands = h.commands ++ ending.started c := by
  cases hruns with
  | never _ => exact (List.append_nil _).symm
  | well _ _ => rfl
  | badly _ _ => rfl

end Host

namespace HostM

open Effect

variable {action : HostM Unit} {h after : Host} {told : Ending → Host → Prop} {c : Command}

/-- How the action ends on a host and what it leaves is as told, and it succeeds exactly if it ends
well. -/
def Ends (action : HostM Unit) (h : Host) (told : Ending → Host → Prop) : Prop :=
  ∃ result ending after, ExceptT.run action h = (result, after) ∧
    (result = .ok () ↔ ending = .well) ∧ told ending after

/-- A call that is refused changes nothing. -/
theorem run_runProgram_of_refused {e : IoError} (hanswer : h.answer c = .error e) :
    ExceptT.run (runProgram c) h
      = (.error (.during (.starting c.program) (.because (.io e))), h) := by
  rw [Host.answer] at hanswer
  rw [runProgram, run_bind, startProgram, run_get_bind]
  dsimp only
  rw [hanswer]
  rfl

/-- A call that is answered is recorded, and how the program ended is how the action does. -/
theorem run_runProgram_of_answered {did : ProgramResult} (hanswer : h.answer c = .ok did) :
    ExceptT.run (runProgram c) h =
      (if did.status.isSuccess then .ok () else .error (.because (.exited c.program did.status)),
        h.called c did) := by
  have hstart : ExceptT.run (startProgram c) h =
      (.ok did, { h with files := did.files, commands := h.commands ++ [c] }) := by
    rw [Host.answer] at hanswer
    rw [startProgram, run_get_bind]
    dsimp only
    rw [hanswer]
    rfl
  rw [runProgram, run_bind, hstart]
  dsimp only
  cases did.status.isSuccess <;> rfl

/-- **A program that is run ends as its call is answered.** If the call is refused, nothing has
happened; if it is answered, the status decides between success and failure, and either way the
command is recorded and its files are taken over. -/
theorem ends_runProgram (h : Host) (c : Command) : (runProgram c).Ends h (h.Runs c) := by
  -- the programs of a host are a function, and its answer says which of the endings it is
  cases hanswer : h.answer c with
  | error e =>
    exact ⟨_, .never, h, run_runProgram_of_refused hanswer, iff_of_false nofun nofun,
      .never hanswer⟩
  | ok did =>
    have hrun := run_runProgram_of_answered hanswer
    by_cases hstatus : did.status.isSuccess = true
    · rw [if_pos hstatus] at hrun
      exact ⟨_, .well, h.called c did, hrun, iff_of_true rfl rfl, .well hanswer hstatus⟩
    · rw [if_neg hstatus] at hrun
      exact ⟨_, .badly, h.called c did, hrun, iff_of_false nofun nofun,
        .badly hanswer (Bool.eq_false_iff.mpr hstatus)⟩

/-- To name what is being done changes no more than the failure. -/
theorem Ends.during (activity : Activity) (hends : action.Ends h told) :
    (HostM.during activity action).Ends h told := by
  obtain ⟨result, ending, after, hrun, hresult, htold⟩ := hends
  rw [Ends, HostM.during]
  cases result with
  | ok u => exact ⟨.ok u, ending, after, by rw [run_tryCatch, hrun], hresult, htold⟩
  | error f =>
    refine ⟨.error (.during activity f), ending, after, ?_, ?_, htold⟩
    · rw [run_tryCatch, hrun]
      rfl
    · exact iff_of_false nofun fun hwell => nomatch hresult.mpr hwell

/-! ### Directories -/

/-- If an action fails, so it does when what is being done is named. -/
theorem exists_run_of_run_during_error {α : Type} {activity : Activity} {action : HostM α}
    {f : Failure} (hrun : ExceptT.run (HostM.during activity action) h = (.error f, after)) :
    ∃ f', ExceptT.run action h = (.error f', after) := by
  rw [HostM.during, run_tryCatch] at hrun
  cases haction : ExceptT.run action h with
  | mk r left =>
    rw [haction] at hrun
    cases r with
    | ok a => cases hrun
    | error f' =>
      cases hrun
      exact ⟨f', rfl⟩

/-- What was created before directories could not be created stays. -/
theorem exists_of_run_createDirectories_error {p : Path} {f : Failure}
    (hrun : ExceptT.run (createDirectories p) h = (.error f, after)) :
    ∃ e, h.files.createDirectories p = .error (after.files, e) := by
  rw [createDirectories, run_get_bind] at hrun
  split at hrun
  · cases hrun
  · next files e hrefused =>
    cases hrun
    exact ⟨e, hrefused⟩

/-- If the directory for a file cannot be created, there is no such file. -/
theorem isFile_of_run_createParent_error {p : Path} {f : Failure}
    (hrun : ExceptT.run (createParent p) h = (.error f, after)) : after.files.isFile p = false := by
  unfold createParent createParentDuring at hrun
  split at hrun
  · cases hrun
  · next parent hparent =>
    split at hrun
    · cases hrun
    · next hnamed =>
      -- what could not be created is no directory, and so there is nothing in it
      obtain ⟨_, hcreate⟩ := exists_run_of_run_during_error hrun
      obtain ⟨e, hrefused⟩ := exists_of_run_createDirectories_error hcreate
      exact Files.isFile_eq_false_of_exists? (Files.exists?_eq_false_of_parent?
        (Files.isDirectory_of_createDirectories_eq_error hrefused) hparent hnamed)

/-- Nothing is started where directories are created. -/
theorem commands_of_run_createParent {p : Path} {result : Except Failure Unit}
    (hrun : ExceptT.run (createParent p) h = (result, after)) : after.commands = h.commands := by
  -- the relation that allows no command at all is kept
  have hkeeps := keeps_createParent (R := Host.OnlyStarts fun _ => False) p h
  rw [hrun] at hkeeps
  obtain ⟨started, hstarted, hnone⟩ := hkeeps.commands
  rw [hstarted, List.eq_nil_iff_forall_not_mem.mpr hnone, List.append_nil]

end HostM

/-- To take over two actions one after the other is to take over both, one after the other. -/
theorem RunM.host_bind {α β : Type} (action : HostM α) (next : α → HostM β) :
    RunM.host (action >>= next) = RunM.host action >>= fun a => RunM.host (next a) := by
  refine ExceptT.ext (funext fun s => ?_)
  rw [Effect.run_bind, RunM.run_host, RunM.run_host, Effect.run_bind]
  cases ExceptT.run action s.2 with
  | mk r after => cases r <;> rfl

end ReleasePipeline
