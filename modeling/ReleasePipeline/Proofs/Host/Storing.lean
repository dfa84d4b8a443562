/-
How a file is stored, and what is left if it is not.

A module that produces one file creates the directory for it, writes it, and records it as an
artifact at the end; `checksums.txt` and a changelog that was retouched come about in this way. What
this does to the files is said without the host (`Files.store`): either the file is written, at the
one place that its path names from then on (`exists_place_of_store`), or no file is written at all,
though directories may have come into being (`grows_of_store_eq_error`).

On the host such an action does to the files what is said of them and to nothing else
(`HostM.OnFiles`): no program is started, no request is sent, and the failure, if there is one, only
names what was being done. The artifact is recorded exactly if the file was stored
(`RunM.run_storing_of_ok`, `RunM.run_storing_of_error`), so a file that could not be stored leaves
the context as it was.
-/
import ReleasePipeline.Proofs.Files.Growth
import ReleasePipeline.Proofs.Host.Endings

set_option autoImplicit false

namespace ReleasePipeline

/-! ## Storing a file

All of this is about trees of files. Where an operation fails, what it leaves comes with the error,
because directories that were created on the way stay. -/

namespace Files

variable {fs after left : Files} {p : Path} {content : Content} {e : IoError}
  {Written : Place → Prop}

/-- Creates the directory that a file is to be put in. What was created before an error stays. -/
def createParent (fs : Files) (p : Path) : Except (Files × IoError) Files :=
  match p.parent? with
  | none => .ok fs
  | some parent => if parent.text = "" then .ok fs else fs.createDirectories parent

/-- Creates the directory for a file and writes the file. What was created before an error
stays. -/
def store (fs : Files) (p : Path) (content : Content) : Except (Files × IoError) Files := do
  let made ← fs.createParent p
  (made.write p content).mapError fun e => (made, e)

/-- Creating the directory for a file writes no file, however far it comes. -/
theorem grows_createParent (fs : Files) (p : Path) :
    fs.Grows Written (Files.left (fs.createParent p)) := by
  unfold createParent
  split
  · exact .refl fs
  · split
    · exact .refl fs
    · exact grows_createDirectories fs _

/-- A file that is stored is written at one place, and that is the place its path names. -/
theorem exists_place_of_store (h : fs.store p content = .ok after) :
    ∃ place, fs.Grows (· = place) after ∧ after.find p = .ok (place, .file content) := by
  obtain ⟨made, hmade, h⟩ := exists_of_bind_eq_ok h
  cases hwrite : made.write p content with
  | error e =>
    rw [hwrite] at h
    cases h
  | ok written =>
    rw [hwrite] at h
    cases h
    -- the directories came first, and they hold no file yet
    obtain ⟨place, hgrows, hfind⟩ := exists_place_of_write hwrite
    have hbefore : fs.Grows (· = place) (Files.left (fs.createParent p)) := grows_createParent fs p
    rw [hmade] at hbefore
    exact ⟨place, hbefore.trans hgrows, hfind⟩

/-- If a file cannot be stored, no file is written. -/
theorem grows_of_store_eq_error (h : fs.store p content = .error (left, e)) :
    fs.Grows Written left := by
  have hbefore : fs.Grows Written (Files.left (fs.createParent p)) := grows_createParent fs p
  unfold store at h
  -- it was the directory that could not be created, or the file in it
  cases hmade : fs.createParent p with
  | error failed =>
    rw [hmade] at h hbefore
    cases h
    exact hbefore
  | ok made =>
    rw [hmade] at h hbefore
    change (made.write p content).mapError _ = _ at h
    cases hwrite : made.write p content with
    | error e =>
      rw [hwrite] at h
      cases h
      exact hbefore
    | ok written =>
      rw [hwrite] at h
      cases h

end Files

/-! ## Actions on the files

`OnFiles action h outcome` reads an action off an outcome for the files. The outcome of a sequence
is the sequence of outcomes, so an action is gone through in the order of its steps. -/

namespace HostM

open Effect

variable {h : Host} {action next : HostM Unit} {outcome : Except (Files × IoError) Files}
  {later : Files → Except (Files × IoError) Files}

/-- To name what is being done changes no more than the failure. -/
theorem run_during {α : Type} (activity : Activity) (action : HostM α) (h : Host) :
    ExceptT.run (during activity action) h =
      ((ExceptT.run action h).1.mapError (.during activity), (ExceptT.run action h).2) := by
  rw [during, run_tryCatch]
  cases ExceptT.run action h with
  | mk r after => cases r <;> rfl

/-- A question about the files leaves them as they are. -/
theorem run_query {α : Type} (question : Files → Except IoError α) (h : Host) :
    ExceptT.run (query question) h =
      ((question h.files).mapError fun e => .because (.io e), h) := by
  rw [query, run_get_bind]
  cases question h.files <;> rfl

/-- The action does to the files what the outcome says, and to nothing else of the host. -/
def OnFiles (action : HostM Unit) (h : Host) (outcome : Except (Files × IoError) Files) : Prop :=
  match outcome with
  | .ok files => ExceptT.run action h = (.ok (), { h with files })
  | .error (files, _) => ∃ f, ExceptT.run action h = (.error f, { h with files })

/-- Doing nothing leaves the files as they are. -/
theorem onFiles_pure (h : Host) : OnFiles (pure ()) h (.ok h.files) := rfl

/-- Naming what is being done changes the failure only. -/
theorem OnFiles.during (hdoes : OnFiles action h outcome) (activity : Activity) :
    OnFiles (HostM.during activity action) h outcome := by
  cases outcome with
  | ok files =>
    have hrun : ExceptT.run action h = (.ok (), { h with files }) := hdoes
    change ExceptT.run (HostM.during activity action) h = _
    rw [run_during, hrun]
    rfl
  | error failed =>
    obtain ⟨f, hrun⟩ := hdoes
    refine ⟨.during activity f, ?_⟩
    rw [run_during, hrun]
    rfl

/-- The second action is looked at on the host with the files that the first one left, and only
there. -/
theorem OnFiles.bind (hdoes : OnFiles action h outcome)
    (hnext : ∀ files, OnFiles next { h with files } (later files)) :
    OnFiles (action >>= fun _ => next) h (outcome >>= later) := by
  cases outcome with
  | error failed =>
    obtain ⟨f, hrun⟩ := hdoes
    refine ⟨f, ?_⟩
    rw [run_bind, hrun]
  | ok files =>
    have hrun : ExceptT.run action h = (.ok (), { h with files }) := hdoes
    have hthen : OnFiles next { h with files } (later files) := hnext files
    change OnFiles _ h (later files)
    -- the first action succeeded, so the outcome is that of the second
    cases hlater : later files with
    | ok after =>
      rw [hlater] at hthen
      change ExceptT.run (action >>= fun _ => next) h = _
      rw [run_bind, hrun]
      exact hthen
    | error failed =>
      rw [hlater] at hthen
      obtain ⟨f, hfail⟩ := hthen
      refine ⟨f, ?_⟩
      rw [run_bind, hrun]
      exact hfail

/-- Directories are created as the tree says. -/
theorem onFiles_createDirectories (h : Host) (p : Path) :
    OnFiles (createDirectories p) h (h.files.createDirectories p) := by
  cases hcreate : h.files.createDirectories p with
  | ok files =>
    change ExceptT.run (createDirectories p) h = _
    rw [createDirectories, run_get_bind, hcreate]
    rfl
  | error failed =>
    refine ⟨.because (.io failed.2), ?_⟩
    rw [createDirectories, run_get_bind, hcreate]
    rfl

/-- The directory for a file is created as the tree says; the message for a failure is added on the
host. -/
theorem onFiles_createParent (h : Host) (p : Path) :
    OnFiles (createParent p) h (h.files.createParent p) := by
  unfold createParent createParentDuring Files.createParent
  cases p.parent? with
  | none => exact onFiles_pure h
  | some parent =>
    dsimp only
    split
    · exact onFiles_pure h
    · exact (onFiles_createDirectories h parent).during _

/-- A change that is refused leaves the files as they are. -/
theorem onFiles_change (h : Host) (step : Files → Except IoError Files) :
    OnFiles (change step) h ((step h.files).mapError fun e => (h.files, e)) := by
  cases hstep : step h.files with
  | ok files =>
    change ExceptT.run (change step) h = _
    rw [change, run_bind, run_query, hstep]
    rfl
  | error e =>
    refine ⟨.because (.io e), ?_⟩
    rw [change, run_bind, run_query, hstep]
    rfl

/-- Creates the directory for a file and writes the file; `activity` names the latter. -/
def store (activity : Activity) (p : Path) (content : Content) : HostM Unit := do
  createParent p
  during activity (change (·.write p content))

/-- Storing a file on the host is storing it in the tree. -/
theorem onFiles_store (h : Host) (activity : Activity) (p : Path) (content : Content) :
    OnFiles (store activity p content) h (h.files.store p content) := by
  refine (onFiles_createParent h p).bind ?_
  intro files
  exact (onFiles_change { h with files } (·.write p content)).during activity

end HostM

/-! ## Recording what was stored -/

namespace RunM

open Effect

variable {activity : Activity} {p : Path} {content : Content} {source message : String}
  {artifact : Artifact} {ctx : Context} {h : Host} {files : Files} {e : IoError}

/-- The steps that store a file and record it. -/
def storing (activity : Activity) (p : Path) (content : Content) (source message : String)
    (artifact : Artifact) : RunM Unit := do
  RunM.host (HostM.createParent p)
  RunM.host (HostM.during activity (HostM.change (·.write p content)))
  RunM.host (HostM.info source message)
  RunM.update (·.record [artifact])

/-- The steps as a module has them, in two parts: what is done to the files, and then the message
and the record. -/
theorem storing_eq : storing activity p content source message artifact =
    (RunM.host (HostM.store activity p content) >>= fun _ =>
      RunM.host (HostM.info source message) >>= fun _ => RunM.update (·.record [artifact])) := by
  unfold storing HostM.store
  rw [host_bind, bind_assoc]

/-- What was stored is recorded. -/
theorem run_storing_of_ok (hstore : h.files.store p content = .ok files) :
    ExceptT.run (storing activity p content source message artifact) (ctx, h) =
      (.ok (), ctx.record [artifact],
        { h with files }.say (.log { level := .info, source, message })) := by
  have hdoes : HostM.OnFiles (HostM.store activity p content) h (.ok files) := by
    rw [← hstore]
    exact HostM.onFiles_store h activity p content
  have hrun : ExceptT.run (HostM.store activity p content) h = (.ok (), { h with files }) := hdoes
  rw [storing_eq, run_bind, run_host, hrun]
  rfl

/-- What was not stored is not recorded. -/
theorem run_storing_of_error (hstore : h.files.store p content = .error (files, e)) :
    ∃ f, ExceptT.run (storing activity p content source message artifact) (ctx, h) =
      (.error f, ctx, { h with files }) := by
  have hdoes : HostM.OnFiles (HostM.store activity p content) h (.error (files, e)) := by
    rw [← hstore]
    exact HostM.onFiles_store h activity p content
  obtain ⟨f, hrun⟩ := hdoes
  refine ⟨f, ?_⟩
  rw [storing_eq, run_bind, run_host, hrun]

end RunM

end ReleasePipeline
