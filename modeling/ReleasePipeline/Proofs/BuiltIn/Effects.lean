/-
What the built-in modules can do.

To the context they do six things, which are the constructors of `Context.Change`: they set the name
of the project and its target directory, the version, or what is known of the repository; they
capture variables of the surrounding process; they record artifacts; and they mark artifacts as
packed. The publishing gate does a seventh, to decide whether to publish, and is left out of
`Change` so that everything that keeps this decision can be read off it.

On the host, apart from files and output, they start programs, and only `publish:artifact` sends
requests. `MayStart` tells which programs a module with given settings may start: `git` for the
questions about the repository, `go` and the hooks of the settings for a build, the compressor that
the settings name, and `scp` for copying.

Each module is gone through once, along its own steps, with one lemma for each of its helpers
(`keeps_…`); then `BuiltInModule.leaves` puts the thirteen together. What holds along a run, such as
that no request is sent before publishing, is read off these two descriptions and does not look at a
module again.
-/
import Mathlib.Logic.Relation
import ReleasePipeline.Proofs.Archive.Writing
import ReleasePipeline.Proofs.BuiltIn
import ReleasePipeline.Proofs.Host.Effects
import ReleasePipeline.Proofs.Setup.Capture

set_option autoImplicit false

namespace ReleasePipeline

open Effect

/-! ## Changes of the context -/

/-- One thing that a module, unless it is the publishing gate, does to the context. -/
inductive Context.Change : Context → Context → Prop
  | project (ctx : Context) (projectName : String) (targetDirectory : Path) :
      Change ctx { ctx with projectName, targetDirectory }
  | version (ctx : Context) (version : String) : Change ctx { ctx with version }
  | repository (ctx : Context) (repository : Repository) : Change ctx { ctx with repository }
  | capture (ctx : Context) (process : List Setup.ProcessVariable) :
      Change ctx { ctx with environment := Setup.capture ctx.environment process }
  | record (ctx : Context) (artifacts : List Artifact) : Change ctx (ctx.record artifacts)
  | pack (ctx : Context) (builds skip : List String) :
      Change ctx { ctx with catalog := ctx.catalog.setPacking builds skip .upx }

/-- Any number of such changes, one after the other. -/
def Context.Changes : Context → Context → Prop := Relation.ReflTransGen Context.Change

instance : IsPreorder Context Context.Changes where
  refl _ := .refl
  trans _ _ _ := .trans

/-- One change is a sequence of changes. -/
theorem Context.Change.changes {a b : Context} (h : Change a b) : Changes a b := .single h

/-! ### What changes keep

By induction on the sequence, and in it by the kind of the last change. -/

namespace Context.Changes

variable {a b : Context}

/-- Nothing but the gate decides whether to publish. -/
theorem publish_eq (h : Changes a b) : b.publish = a.publish := by
  induction h with
  | refl => rfl
  | tail _ hchange ih => cases hchange <;> exact ih

/-- A variable keeps the value it has. -/
theorem get?_of_some (h : Changes a b) {name value : String}
    (ha : a.environment.get? name = some value) : b.environment.get? name = some value := by
  induction h with
  | refl => exact ha
  | tail _ hchange ih =>
    cases hchange with
    -- capturing is the only change of the variables, and it gives way to those that are there
    | capture process => exact Setup.get?_capture_of_some ih
    | _ => exact ih

end Context.Changes

/-! ## Effects on the host

Each lemma follows the steps of one action. The relation `R` is any that passes over files and
output; where an action starts a program or sends a request, it is a hypothesis that `R` passes over
that as well. -/

instance : Host.Frame fun _ _ => True where
  files _ _ := trivial
  say _ _ := trivial

section Keeps

open Context

variable {R : Host → Host → Prop} [Host.Frame R]

/-- The lines of a listing are messages. -/
theorem Show.keeps_sayAll (lines : List String) : Keeps R (Show.sayAll lines) := by
  induction lines with
  | nil => exact Keeps.pure _
  | cons line rest ih => exact (HostM.keeps_info _ _).bind fun _ => ih

/-- The listing says what is in the context and does nothing else. -/
theorem Show.keeps_run (ctx : Context) : Keeps R (run ctx) := keeps_sayAll _

/-- Capturing reads the variables of the process from the host, and its one change is to the
context. -/
theorem Setup.CaptureEnvironment.keeps_run : Keeps (RunM.Both Changes R) run :=
  (RunM.keeps_host Keeps.get).bind fun host =>
    RunM.keeps_update fun ctx => (Change.capture ctx host.processVariables).changes

/-- The target directory is created before the context knows of it; if it cannot be created, the
context does not change. -/
theorem Setup.Project.keeps_run (s : Settings) : Keeps (RunM.Both Changes R) (run s) :=
  (RunM.keeps_host (HostM.keeps_during _ (HostM.keeps_createDirectories _))).bind fun _ =>
    (RunM.keeps_update fun ctx => (Change.project ctx _ _).changes).bind fun _ =>
      RunM.keeps_host (HostM.keeps_info _ _)

/-- A question starts `git` once. If the answer may be missing, a failure of the program is caught.
-/
theorem Setup.Git.keeps_ask (hgit : ∀ c : Command, c.program = "git" → Host.Starts R c)
    (env : Environment) (q : Question) : Keeps R (ask env q) := by
  have hanswer := HostM.keeps_captureProgram
    (hgit { program := "git", arguments := q.arguments, environment := env } rfl)
  unfold ask
  dsimp only
  split
  · exact HostM.keeps_during _ hanswer
  · exact hanswer.tryCatch fun _ => Keeps.pure _

/-- What the gate does to the context is a matter of its own. -/
theorem Setup.PublishGate.keeps_run (s : Settings) :
    Keeps (RunM.Both (fun _ _ => True) R) (run s) := by
  refine RunM.keeps_context.bind fun ctx => ?_
  split
  · exact Keeps.pure _
  · split
    · exact RunM.keeps_host (HostM.keeps_fail _)
    · exact (RunM.keeps_update fun _ => trivial).bind fun _ =>
        RunM.keeps_host (HostM.keeps_info _ _)

/-- A hook that has no word in it starts nothing; any other starts the program that its first word
names. -/
theorem Build.Go.keeps_runHooks {env : Environment} {hooks : List String}
    (hstarts : ∀ hook ∈ hooks, ∀ c, hookCommand? env hook = some c → Host.Starts R c) :
    Keeps R (runHooks env hooks) := by
  induction hooks with
  | nil => exact Keeps.pure _
  | cons hook rest ih =>
    rw [List.forall_mem_cons] at hstarts
    unfold runHooks
    cases hcommand : hookCommand? env hook with
    | none => exact ih hstarts.2
    | some c =>
      exact (HostM.keeps_during _ (HostM.keeps_runProgram (hstarts.1 c hcommand))).bind
        fun _ => ih hstarts.2

/-- The compiler is called by its name, whatever the flags and the version of the processor are. -/
theorem Build.Go.program_buildCommand (s : Settings) (env : Environment) (b : TargetBuild) :
    (buildCommand s env b).program = "go" := by
  unfold buildCommand
  dsimp only
  split <;> rfl

/-- Building for one target: the directory, the compiler, and, should that fail, the file that it
may have left is removed, which is a change of files. -/
theorem Build.Go.keeps_build (hgo : ∀ c : Command, c.program = "go" → Host.Starts R c)
    (s : Settings) (env : Environment) (b : TargetBuild) : Keeps R (build s env b) := by
  -- a file that was not built in full is taken away, if it is there
  have hdiscard : Keeps R (discard b.location) := Keeps.modify fun h => by
    split
    · exact Host.Frame.files h _
    · exact refl_of R h
  exact (HostM.keeps_createParent _).bind fun _ =>
    (HostM.keeps_runProgram (hgo _ (program_buildCommand s env b))).tryCatch fun _ =>
      hdiscard.bind fun _ => Keeps.throw _

/-- Digests are taken of files that are read; what is written is the listing, and what is recorded
is its artifact. -/
theorem Build.Checksum.keeps_run (s : Settings) : Keeps (RunM.Both Changes R) (run s) := by
  have hdigest : ∀ (algorithm : HashAlgorithm) (p : Path), Keeps R (digestFile algorithm p) :=
    fun _ _ => (HostM.keeps_during _ (HostM.keeps_query _)).bind fun _ =>
      (HostM.keeps_during _ (HostM.keeps_query _)).bind fun _ => Keeps.pure _
  have hlines : ∀ (algorithm : HashAlgorithm) (as : List Artifact),
      Keeps R (lines algorithm as) := by
    intro algorithm as
    induction as with
    | nil => exact Keeps.pure _
    | cons a rest ih =>
      exact (hdigest algorithm a.location).bind fun _ => ih.bind fun _ => Keeps.pure _
  -- nothing selected: there is a warning and no listing
  refine RunM.keeps_context.bind fun ctx => ?_
  refine (RunM.keeps_host (HostM.keeps_ofExcept _)).bind fun output => ?_
  dsimp only
  split
  · exact RunM.keeps_host (HostM.keeps_warn _ _ _)
  · exact (RunM.keeps_host (hlines _ _)).bind fun _ =>
      (RunM.keeps_host (HostM.keeps_createParent _)).bind fun _ =>
        (RunM.keeps_host (HostM.keeps_during _ (HostM.keeps_change _))).bind fun _ =>
          (RunM.keeps_host (HostM.keeps_info _ _)).bind fun _ =>
            RunM.keeps_update fun ctx => (Change.record ctx _).changes

/-- Writing an archive touches files only. That it could not be packed to its end is a failure after
the archive was written. -/
theorem Archive.keeps_write (format : Format) (plan : Plan) (location : Path) (files : List Path) :
    Keeps R (write format plan location files) := by
  refine (HostM.keeps_createParent _).bind fun _ =>
    (HostM.keeps_during _ (HostM.keeps_change _)).bind fun _ => Keeps.get.bind fun h => ?_
  refine (HostM.keeps_change _).bind fun _ => ?_
  split
  · exact Keeps.throw _
  · exact Keeps.pure _

/-- Packing, in either format: files, messages, and the artifacts of all archives at the end. -/
theorem Archive.keeps_run {γ : Type} (format : Format) (labels : Labels) (s : Settings γ) :
    Keeps (RunM.Both Changes R) (run format labels s) :=
  keeps_run_of_write (fun _ _ _ _ _ => keeps_write _ _ _ _) Host.Frame.say
    fun ctx archives => (Change.record ctx archives).changes

/-- The compressor is started once for all files of the selection, and not at all if there are none.
The artifacts are marked as packed afterwards. -/
theorem Build.Upx.keeps_run (s : Settings)
    (hstarts : ∀ c : Command, c.program = s.program → Host.Starts R c) :
    Keeps (RunM.Both Changes R) (run s) := by
  refine RunM.keeps_context.bind fun ctx => ?_
  split
  · exact RunM.keeps_host (HostM.keeps_info _ _)
  · have hprogram := HostM.keeps_during (.compressing s.program) <|
      HostM.keeps_runProgram <| hstarts
        { program := s.program, arguments := arguments s ctx, environment := ctx.environment } rfl
    exact (RunM.keeps_host (HostM.keeps_info _ _)).bind fun _ =>
      (RunM.keeps_host hprogram).bind fun _ =>
        RunM.keeps_update fun ctx => (Change.pack ctx s.builds s.skip).changes

/-- A changelog is read and cut, and its section is written and recorded. No program is started for
it. -/
theorem Build.Changelog.keeps_run (s : Settings) : Keeps (RunM.Both Changes R) (run s) := by
  refine RunM.keeps_context.bind fun ctx => ?_
  refine (RunM.keeps_host (HostM.keeps_during _ (HostM.keeps_readText _))).bind fun contents => ?_
  dsimp only
  split
  · exact RunM.keeps_host (HostM.keeps_fail _)
  · exact (RunM.keeps_host (HostM.keeps_createParent _)).bind fun _ =>
      (RunM.keeps_host (HostM.keeps_during _ (HostM.keeps_change _))).bind fun _ =>
        (RunM.keeps_host (HostM.keeps_info _ _)).bind fun _ =>
          RunM.keeps_update fun ctx => (Change.record ctx _).changes

/-- Copying starts `scp` once, if there is anything to copy. -/
theorem Publish.Copy.keeps_run (s : Settings) (ctx : Context)
    (hscp : ∀ c : Command, c.program = "scp" → Host.Starts R c) : Keeps R (run s ctx) := by
  unfold run
  split
  · exact HostM.keeps_fail _
  · split
    · exact HostM.keeps_warn _ _ _
    · exact (HostM.keeps_info _ _).bind fun _ => HostM.keeps_runProgram (hscp _ rfl)

/-! ### Requests

Only here is anything sent. A request is on record as soon as it is made, and what is done with the
answer leaves the host alone. -/

namespace Publish

/-- To look at the status of an answer is to do nothing. -/
theorem ReleaseClient.keeps_checked (r : Response) : Keeps R (checked r) := by
  unfold checked
  split
  · exact Keeps.pure _
  · exact HostM.keeps_fail _

/-- Nor does it do anything to read what the answer says of a release. -/
theorem ReleaseClient.keeps_releaseIn (r : Response) : Keeps R (releaseIn r) := by
  refine (keeps_checked r).bind fun r => ?_
  split
  · exact Keeps.pure _
  · exact HostM.keeps_during _ (HostM.keeps_fail _)

variable (hsends : Host.Sends R)
include hsends

/-- One request is put on record; the address may be refused before that, and the server may be out
of reach after it. -/
theorem ReleaseClient.keeps_send (client : ReleaseClient) (method : HttpMethod) (url : String)
    (change : Request → Request) : Keeps R (client.send method url change) := by
  refine HostM.keeps_during _ ((HostM.keeps_lift _ _).bind fun u h => ?_)
  refine trans_of R (hsends h (change { method, url := u, headers := client.headers })) ?_
  rw [run_get_bind]
  dsimp only
  rw [run_set_bind]
  split
  · exact refl_of R _
  · exact refl_of R _

/-- The release is looked for and then created or edited: two requests at most. -/
theorem ReleaseClient.keeps_publish (client : ReleaseClient) (data : ReleaseData) :
    Keeps R (client.publish data) := by
  have hfound : Keeps R (client.releaseByTag data.tagName) := by
    refine (keeps_send hsends client _ _ _).bind fun r => ?_
    split
    · exact Keeps.pure _
    · exact (keeps_releaseIn r).bind fun _ => Keeps.pure _
  -- creating and editing are the same to the host: a request, and an answer that is read
  have hanswered : ∀ method url change,
      Keeps R (client.send method url change >>= fun r => releaseIn r) :=
    fun _ _ _ => (keeps_send hsends client _ _ _).bind fun r => keeps_releaseIn r
  refine hfound.bind fun existing? => ?_
  split
  · exact (HostM.keeps_during _ (hanswered _ _ _)).bind fun _ =>
      (HostM.keeps_info _ _).bind fun _ => Keeps.pure _
  · exact (HostM.keeps_during _ (hanswered _ _ _)).bind fun _ =>
      (HostM.keeps_info _ _).bind fun _ => Keeps.pure _

/-- One request for each asset, up to the first that fails. -/
theorem Release.keeps_uploadAll (s : Settings) (client : ReleaseClient) (release : Nat)
    (as : List Artifact) : Keeps R (uploadAll s client release as) := by
  have hupload : ∀ a : Artifact, Keeps R (client.uploadAsset release a) := fun _ =>
    (HostM.keeps_during _ (HostM.keeps_query _)).bind fun _ =>
      (ReleaseClient.keeps_send hsends client _ _ _).bind fun r =>
        (ReleaseClient.keeps_checked r).bind fun _ => Keeps.pure _
  induction as with
  | nil => exact Keeps.pure _
  | cons a rest ih =>
    exact (HostM.keeps_during _ (hupload a)).bind fun _ => (HostM.keeps_info _ _).bind fun _ => ih

/-- Publishing a release as a whole: the notes are read, a token is looked for, and requests are
sent. The context is not changed. -/
theorem Release.keeps_run (s : Settings) (ctx : Context) : Keeps R (run s ctx) := by
  have hnotes : Keeps R (releaseNotes s ctx) := by
    unfold releaseNotes
    split
    · exact HostM.keeps_fail _
    · exact HostM.keeps_during _ (HostM.keeps_readText _)
    · exact HostM.keeps_fail _
  have htoken : Keeps R (token s ctx.environment) := by
    refine Keeps.get.bind fun h => ?_
    split
    · exact Keeps.pure _
    · exact HostM.keeps_fail _
  unfold run
  split
  · exact HostM.keeps_fail _
  · exact hnotes.bind fun _ => htoken.bind fun _ => (HostM.keeps_info _ _).bind fun _ =>
      hnotes.bind fun _ => (HostM.keeps_ofExcept _).bind fun _ =>
        (ReleaseClient.keeps_publish hsends _ _).bind fun _ => keeps_uploadAll hsends s _ _ _

end Publish

end Keeps

/-! ## Modules

The two modules that change the context between their steps have their proofs here. What they have
done before a failure stays, and so their effect on the context is a sequence of changes and not a
single one. -/

/-- The programs that a module with given settings may start on a context. -/
def BuiltInModule.MayStart : (m : BuiltInModule) → m.Settings → Context → Command → Prop
  | git, _, _, c => c.program = "git"
  | go, (s : Build.Go.Settings), ctx, c => c.program = "go"
      ∨ ∃ hook ∈ s.before ++ s.after, Build.Go.hookCommand? ctx.environment hook = some c
  | upx, (s : Build.Upx.Settings), _, c => c.program = s.program
  | copy, _, _, c => c.program = "scp"
  | _, _, _, _ => False

section Leaves

open Context

variable {R : Host → Host → Prop} [Host.Frame R]

/-- Four questions, each recorded when it is answered: the version, the tag, the reference and the
address of the repository. -/
theorem Setup.Git.leaves_module (hgit : ∀ c : Command, c.program = "git" → Host.Starts R c)
    (ctx : Context) : (module ()).Leaves Changes R ctx := by
  have hrecord : ∀ q ∈ questions, ∀ answer ctx, Changes ctx (q.record answer ctx) := by
    intro q hq answer ctx
    simp only [questions, List.mem_cons, List.not_mem_nil, or_false] at hq
    rcases hq with rfl | rfl | rfl | rfl
    · exact (Change.version ctx answer).changes
    · exact (Change.repository ctx { ctx.repository with tag := answer }).changes
    · exact (Change.repository ctx { ctx.repository with reference := answer }).changes
    · exact (Change.repository ctx { ctx.repository with url := answer }).changes
  -- for any list of questions, as long as each records something that is a change
  have haskAll : ∀ qs : List Question, (∀ q ∈ qs, ∀ answer ctx, Changes ctx (q.record answer ctx)) →
      Keeps (RunM.Both Changes R) (askAll qs) := by
    intro qs hqs
    induction qs with
    | nil => exact Keeps.pure _
    | cons q rest ih =>
      rw [List.forall_mem_cons] at hqs
      exact RunM.keeps_context.bind fun _ =>
        (RunM.keeps_host (keeps_ask hgit _ q)).bind fun answer =>
        (RunM.keeps_update (hqs.1 answer)).bind fun _ => ih hqs.2
  have hrun : Keeps (RunM.Both Changes R) run := by
    refine (haskAll questions hrecord).bind fun _ => RunM.keeps_context.bind fun ctx => ?_
    split
    · exact RunM.keeps_host (HostM.keeps_fail _)
    · exact RunM.keeps_host (HostM.keeps_info _ _)
  exact Module.leaves_ofSteps fun host => hrun (ctx, host)

/-- The hooks before, one build for each target, recorded when it is done, and the hooks after. -/
theorem Build.Go.leaves_module (s : Settings) (ctx : Context)
    (hstarts : ∀ c, BuiltInModule.MayStart .go s ctx c → Host.Starts R c) :
    (module s).Leaves Changes R ctx := by
  have hgo : ∀ c : Command, c.program = "go" → Host.Starts R c := fun c h => hstarts c (.inl h)
  have hhooks : ∀ hooks, (∀ hook ∈ hooks, hook ∈ s.before ++ s.after) →
      Keeps R (runHooks ctx.environment hooks) := fun hooks hmem =>
    keeps_runHooks fun hook hhook c hc => hstarts c (.inr ⟨hook, hmem hook hhook, hc⟩)
  have hbuildAll : ∀ builds, Keeps (RunM.Both Changes R) (buildAll s ctx.environment builds) := by
    intro builds
    induction builds with
    | nil => exact Keeps.pure _
    | cons b rest ih =>
      exact (RunM.keeps_host (keeps_build hgo s _ b)).bind fun _ =>
        (RunM.keeps_host (HostM.keeps_info _ _)).bind fun _ =>
          (RunM.keeps_update fun ctx => (Change.record ctx _).changes).bind fun _ => ih
  refine Module.leaves_ofSteps fun host => ?_
  -- the hooks see the variables that the module is given, whatever the builds record
  rw [run, RunM.run_context_bind]
  -- the builds are resolved from the templates first, and that cannot change anything
  have hread : Keeps (RunM.Both Changes R) (RunM.host (HostM.ofExcept (s.builds ctx))) :=
    RunM.keeps_host (HostM.keeps_ofExcept _)
  have hrest := hread.bind fun builds =>
    (RunM.keeps_host (hhooks s.before fun _ => List.mem_append_left _)).bind fun _ =>
      (hbuildAll builds).bind fun _ =>
        RunM.keeps_host (hhooks s.after fun _ => List.mem_append_right _)
  exact hrest (ctx, host)

/-- **What a built-in module does.** Unless it is the publishing gate, its effect on the context is
made of the changes above. It starts no other programs than those it may start, and only the
release module sends requests. -/
theorem BuiltInModule.leaves (m : BuiltInModule) (hgate : m ≠ .gate) (s : m.Settings)
    (ctx : Context)
    (hstarts : ∀ c, m.MayStart s ctx c → Host.Starts R c)
    (hsends : m = .release → Host.Sends R) : (m.module s).Leaves Changes R ctx := by
  cases m with
  | gate => exact absurd rfl hgate
  | listing => exact Module.leaves_ofReading (Show.keeps_run ctx)
  | capture =>
    exact Module.leaves_ofSteps fun host => Setup.CaptureEnvironment.keeps_run (ctx, host)
  | project => exact Module.leaves_ofSteps fun host => Setup.Project.keeps_run s (ctx, host)
  | git => exact Setup.Git.leaves_module hstarts ctx
  | go => exact Build.Go.leaves_module s ctx hstarts
  | checksum => exact Module.leaves_ofSteps fun host => Build.Checksum.keeps_run s (ctx, host)
  | zip => exact Module.leaves_ofSteps fun host => Archive.keeps_run _ _ s (ctx, host)
  | tar => exact Module.leaves_ofSteps fun host => Archive.keeps_run _ _ s (ctx, host)
  | upx => exact Module.leaves_ofSteps fun host => Build.Upx.keeps_run s hstarts (ctx, host)
  | changelog => exact Module.leaves_ofSteps fun host => Build.Changelog.keeps_run s (ctx, host)
  | copy => exact Module.leaves_ofReading (Publish.Copy.keeps_run s ctx hstarts)
  | release => exact Module.leaves_ofReading (Publish.Release.keeps_run (hsends rfl) s ctx)

/-- Its effect on the host, the gate included. -/
theorem BuiltInModule.host (m : BuiltInModule) (s : m.Settings) (ctx : Context)
    (hstarts : ∀ c, m.MayStart s ctx c → Host.Starts R c)
    (hsends : m = .release → Host.Sends R) (h : Host) : R h ((m.module s).run ctx h).host := by
  by_cases hgate : m = .gate
  -- the gate is apart for what it does to the context, which is of no account here
  · subst hgate
    exact (Setup.PublishGate.keeps_run s (ctx, h)).2
  · exact (m.leaves hgate s ctx hstarts hsends h).2

end Leaves

/-- Its effect on the context alone. -/
theorem BuiltInModule.changes (m : BuiltInModule) (hgate : m ≠ .gate) (s : m.Settings)
    (ctx : Context) (h : Host) : Context.Changes ctx ((m.module s).run ctx h).context := by
  have hleaves : (m.module s).Leaves Context.Changes (fun _ _ => True) ctx :=
    m.leaves hgate s ctx (fun _ _ _ _ => trivial) fun _ _ _ => trivial
  exact (hleaves h).1

end ReleasePipeline
