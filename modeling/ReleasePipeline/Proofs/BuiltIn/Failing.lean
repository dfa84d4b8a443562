/-
What a failing module leaves behind.

Apart from two, the built-in modules change the context last, when all that can fail is done:
files are read and written, directories created and programs run before anything is recorded.
The two are `setup:git`, which records each answer as it comes, and `build:go`, which records each
executable when it is built. For the others a failure costs the context nothing, which is proved
along the steps of each (`RunM.AllOrNothing`).

The host is another matter, for what was done there stays done. But the modules that pack archives
look at the selection and at the patterns before they write anything, so a selection that is no
rectangle, or a pattern that cannot be read, leaves the files as they were.
-/
import ReleasePipeline.Proofs.BuiltIn
import ReleasePipeline.Proofs.Catalog.Selection

set_option autoImplicit false

namespace ReleasePipeline

open Effect

/-! ## Modules that change the context last

Each proof follows the steps of the module. As long as these are steps on the host,
`allOrNothing_host_bind` passes over them, and what is left in the end is the change of the context.
-/

section AllOrNothing

open RunM

variable {ctx : Context}

/-- It reads from the host and then changes the context; there is nothing that could fail. -/
theorem Setup.CaptureEnvironment.allOrNothing_run : AllOrNothing (fun _ => True) ctx run :=
  allOrNothing_host_bind fun _ => allOrNothing_update trivial

/-- The target directory cannot be created, or else it is known to the context. -/
theorem Setup.Project.allOrNothing_run (s : Settings) :
    AllOrNothing (fun _ => True) ctx (run s) :=
  allOrNothing_host_bind fun _ => allOrNothing_update_info _ _ trivial

/-- The variable has neither a value that means yes nor one that means no, and the decision stays
open. -/
theorem Setup.PublishGate.allOrNothing_run (s : Settings) :
    AllOrNothing (fun _ => True) ctx (run s) := by
  refine allOrNothing_context_bind ?_
  split
  · exact allOrNothing_pure trivial
  · split
    · exact allOrNothing_fail _
    · exact allOrNothing_update_info _ _ trivial

/-- However many digests were taken, the listing is recorded only when it is written. -/
theorem Build.Checksum.allOrNothing_run (s : Settings) :
    AllOrNothing (fun _ => True) ctx (run s) := by
  refine allOrNothing_context_bind (allOrNothing_host_bind fun output => ?_)
  dsimp only
  split
  · exact allOrNothing_host _ trivial
  · exact allOrNothing_host_bind fun _ => allOrNothing_host_bind fun _ =>
      allOrNothing_host_bind fun _ => allOrNothing_host_bind fun _ => allOrNothing_update trivial

/-- However many archives were written before one fails, none is recorded. -/
theorem Archive.allOrNothing_run {γ : Type} (format : Format) (labels : Labels) (s : Settings γ) :
    AllOrNothing (fun _ => True) ctx (run format labels s) :=
  allOrNothing_context_bind (allOrNothing_host_bind fun _ => allOrNothing_update trivial)

/-- There is no section for the version, or it cannot be written, and nothing is recorded. -/
theorem Build.Changelog.allOrNothing_run (s : Settings) :
    AllOrNothing (fun _ => True) ctx (run s) := by
  refine allOrNothing_context_bind (allOrNothing_host_bind fun contents => ?_)
  dsimp only
  split
  · exact allOrNothing_fail _
  · exact allOrNothing_host_bind fun _ => allOrNothing_host_bind fun _ =>
      allOrNothing_host_bind fun _ => allOrNothing_update trivial

end AllOrNothing

/-! ## Archives that are not begun -/

namespace Archive

variable {γ : Type} {s : Settings γ} {ctx : Context} {h : Host}

/-- Why no archive is begun: the selection is no rectangle, or a pattern cannot be read. -/
inductive Refuses (s : Settings γ) (ctx : Context) : Failure → Prop
  | selection {e : SelectionError} (h : (ctx.catalog.group s.builds s.skip).validate = .error e) :
    Refuses s ctx (.because (.selection e))
  | pattern {pattern : String} {e : PatternError} (hmem : pattern ∈ s.files)
    (h : Pattern.parse pattern = .error e) :
    Refuses s ctx (.during (.readingPattern pattern) (.because (.pattern e)))

/-- Looking for files changes nothing, and it fails exactly if a pattern cannot be read. -/
theorem run_staticFiles (patterns : List String) (h : Host) :
    (∃ pattern ∈ patterns, ∃ e, Pattern.parse pattern = .error e ∧
      ExceptT.run (staticFiles patterns) h
        = (.error (.during (.readingPattern pattern) (.because (.pattern e))), h)) ∨
    ((∀ pattern ∈ patterns, ∃ p, Pattern.parse pattern = .ok p) ∧
      ∃ files, ExceptT.run (staticFiles patterns) h = (.ok files, h)) := by
  induction patterns with
  | nil => exact .inr ⟨nofun, [], rfl⟩
  | cons pattern rest ih =>
    rw [staticFiles, run_bind]
    cases hparse : Pattern.parse pattern with
    | error e => exact .inl ⟨pattern, List.mem_cons_self, e, hparse, rfl⟩
    | ok p =>
      have hread : ExceptT.run (HostM.during (.readingPattern pattern)
          (HostM.lift .pattern (.ok p))) h = (.ok p, h) := rfl
      rw [hread]
      dsimp only
      rw [run_get_bind, run_bind]
      rcases ih with ⟨bad, hbad, e, he, hrun⟩ | ⟨hall, files, hrun⟩
      · rw [hrun]
        exact .inl ⟨bad, List.mem_cons_of_mem _ hbad, e, he, rfl⟩
      · rw [hrun]
        exact .inr ⟨List.forall_mem_cons.mpr ⟨⟨p, hparse⟩, hall⟩, _, rfl⟩

/-- A module that refuses what it is given does nothing. -/
theorem run_of_refuses {format : Format} {labels : Labels} {f : Failure} (hf : Refuses s ctx f) :
    ∃ f', Refuses s ctx f' ∧
      (Module.ofSteps (run format labels s)).run ctx h = ⟨.error f', ctx, h⟩ := by
  rw [Module.run_ofSteps, run, RunM.run_context_bind, run_bind, RunM.run_host, packAll]
  dsimp only
  rw [run_bind]
  cases hvalid : (ctx.catalog.group s.builds s.skip).validate with
  | error e => exact ⟨_, .selection hvalid, rfl⟩
  | ok _ =>
    have haccepted : ExceptT.run (HostM.lift Cause.selection (.ok ())) h = (.ok (), h) := rfl
    rw [haccepted]
    dsimp only
    rw [run_bind]
    rcases run_staticFiles s.files h with ⟨bad, hbad, e, he, hrun⟩ | ⟨hall, -⟩
    · rw [hrun]
      exact ⟨_, .pattern hbad he, rfl⟩
    · -- then there is nothing to refuse
      cases hf with
      | selection hinvalid =>
        rw [hvalid] at hinvalid
        cases hinvalid
      | pattern hmem hbad =>
        obtain ⟨p, hp⟩ := hall _ hmem
        rw [hp] at hbad
        cases hbad

end Archive

/-! ## Modules -/

namespace BuiltInModule

/-- Why a module that packs archives does not begin with any. -/
def Refuses : (m : BuiltInModule) → m.Settings → Context → Failure → Prop
  | zip, (s : Build.Zip.Settings), ctx, f => Archive.Refuses s ctx f
  | tar, (s : Build.Tar.Settings), ctx, f => Archive.Refuses s ctx f
  | _, _, _, _ => False

/-- Every module but the two, in the order of the thirteen. -/
theorem failsCleanly_module (m : BuiltInModule) (hgit : m ≠ git) (hgo : m ≠ go) (s : m.Settings)
    (ctx : Context) : (m.module s).FailsCleanly ctx := by
  cases m with
  | git => exact absurd rfl hgit
  | go => exact absurd rfl hgo
  | listing => exact Module.failsCleanly_ofReading Show.run ctx
  | capture => exact Module.failsCleanly_ofSteps Setup.CaptureEnvironment.allOrNothing_run
  | project => exact Module.failsCleanly_ofSteps (Setup.Project.allOrNothing_run s)
  | gate => exact Module.failsCleanly_ofSteps (Setup.PublishGate.allOrNothing_run s)
  | checksum => exact Module.failsCleanly_ofSteps (Build.Checksum.allOrNothing_run s)
  | zip | tar => exact Module.failsCleanly_ofSteps (Archive.allOrNothing_run _ _ s)
  | upx => exact Module.failsCleanly_ofSteps (Build.Upx.allOrNothing_run s ctx)
  | changelog => exact Module.failsCleanly_ofSteps (Build.Changelog.allOrNothing_run s)
  | copy => exact Module.failsCleanly_ofReading (Publish.Copy.run s) ctx
  | release => exact Module.failsCleanly_ofReading (Publish.Release.run s) ctx

/-- **A failing module leaves the context as it was.** That is so of all built-in modules but the
one that asks for the version and the one that builds executables, with any settings, on any
context and any host. A module that packs archives, if the selection is no rectangle or a pattern
cannot be read, fails for one of these reasons and leaves the host as it was, too. -/
theorem failure_leaves_context (m : BuiltInModule) (s : m.Settings) (ctx : Context) (h : Host) :
    (m ≠ git → m ≠ go → ∀ f, ((m.module s).run ctx h).result = .error f →
      ((m.module s).run ctx h).context = ctx) ∧
    ∀ f, m.Refuses s ctx f →
      ∃ f', m.Refuses s ctx f' ∧ (m.module s).run ctx h = ⟨.error f', ctx, h⟩ := by
  refine ⟨fun hgit hgo f hfail => m.failsCleanly_module hgit hgo s ctx h f hfail, fun f hf => ?_⟩
  cases m with
  | zip | tar => exact Archive.run_of_refuses hf
  | _ => exact hf.elim

/-- Whether to publish is neither said to be true nor false, and of two builds each is for another
target. -/
def undecided : Context where
  environment := Environment.empty.set "SKIP_PUBLISH" "maybe"
  catalog :=
    ⟨[⟨"server", "server", ⟨"dist/server"⟩, ⟨"linux", "amd64", none⟩, .raw⟩,
      ⟨"client", "client", ⟨"dist/client"⟩, ⟨"darwin", "arm64", none⟩, .raw⟩]⟩

/-- In this context the publishing gate fails, and so does packing the two builds. -/
theorem undecided_left_alone :
    let gateRun := (gate.module Setup.PublishGate.schema.defaults).run undecided {}
    let settings := { Build.Zip.schema.defaults with builds := ["server", "client"] }
    let missing := Failure.because (.selection (.missingTargets "server" ["darwin-arm64"]))
    gate ≠ git ∧ gate ≠ go ∧
      gateRun.result = .error (.because (.notBoolean "SKIP_PUBLISH" "maybe")) ∧
      gateRun.context = undecided ∧ zip.Refuses settings undecided missing ∧
      ∃ f, (zip.module settings).run undecided {} = ⟨.error f, undecided, {}⟩ := by
  intro gateRun settings missing
  have hfails : gateRun.result = .error (.because (.notBoolean "SKIP_PUBLISH" "maybe")) := by
    decide
  have hkept := (failure_leaves_context gate Setup.PublishGate.schema.defaults undecided {}).1
    nofun nofun _ hfails
  have hrefuses : zip.Refuses settings undecided missing := .selection rfl
  obtain ⟨f, -, hrun⟩ := (failure_leaves_context zip settings undecided {}).2 missing hrefuses
  exact ⟨nofun, nofun, hfails, hkept, hrefuses, f, hrun⟩

end BuiltInModule

end ReleasePipeline
