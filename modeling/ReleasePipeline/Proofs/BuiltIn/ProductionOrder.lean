/-
The order in which unrelated artifacts were produced is of no account.

Two catalogs with the same sequences give the same selections. A module that works on a selection
therefore works on the same artifacts in the same order: it passes the same arguments to the
compressor or to `scp`, writes the same listing of digests, puts the same entries into the same
archives, and uploads the same assets one after the other. The release notes are no selection, but
they have to be the only artifact of their build (`releaseNotes_eq`), and that is the same for the
same artifacts in any order.

This is said of the parts of the modules first, and then of whole runs, side by side. It does not
stop at the modules that select something: whatever built-in module is run on two contexts that
differ by such catalogs only, the results and the hosts are the same, and the contexts that it
leaves again differ by such catalogs only (`BuiltInModule.respects_alike`). So a pipeline may go on
after the first difference, and nobody will notice it later. The one exception is `type: show`,
which shows the catalog as it is.
-/
import ReleasePipeline.Proofs.Archive.Writing
import ReleasePipeline.Proofs.BuiltIn
import ReleasePipeline.Proofs.Catalog.ProductionOrder
import ReleasePipeline.Proofs.Host.SideBySide

set_option autoImplicit false

namespace ReleasePipeline

open RunM

/-! ## Contexts

`Context.Alike` is the relation for the two runs. It has to be kept by whatever a module does to the
catalog, which is to record artifacts and to mark some as packed. -/

/-- The catalogs of the contexts have the same sequences, and everything else is the same. -/
def Context.Alike (ctx ctx' : Context) : Prop :=
  ∃ c, ctx' = { ctx with catalog := c } ∧ ctx.catalog.SameSequences c

variable {ctx ctx' : Context}

/-- The same artifacts recorded at the end of both. -/
theorem Context.Alike.record (h : ctx.Alike ctx') (added : List Artifact) :
    (ctx.record added).Alike (ctx'.record added) := by
  obtain ⟨c, rfl, hc⟩ := h
  exact ⟨c.addAll added, rfl, hc.addAll added⟩

/-- The same selection from both, for any builds and any targets that are skipped. -/
theorem Context.Alike.group_eq (h : ctx.Alike ctx') (ids skip : List String) :
    ctx'.catalog.group ids skip = ctx.catalog.group ids skip := by
  obtain ⟨c, rfl, hc⟩ := h
  exact (hc.group_eq ids skip).symm

/-! ## What works on a selection -/

namespace Build

/-- The files that are given to the compressor. -/
theorem Upx.files_eq (s : Upx.Settings) (h : ctx.Alike ctx') :
    Upx.files s ctx' = Upx.files s ctx := by
  rw [Upx.files, Upx.files, h.group_eq]

/-- The compressor is started with the same files, and then the same artifacts are marked as packed
in both catalogs. -/
theorem Upx.respects_module (s : Upx.Settings) : (Upx.module s).Respects Context.Alike := by
  refine Module.respects_ofSteps (.context_bind fun ctx ctx' h => ?_)
  rw [Upx.arguments, Upx.arguments, Upx.files_eq s h]
  obtain ⟨c, rfl, hc⟩ := h
  split
  -- nothing to compress, in both runs
  · exact .host _
  · refine (Matches.host _).bind fun _ => (Matches.host _).bind fun _ => .update ?_
    rintro ctx _ ⟨c, rfl, hc⟩
    exact ⟨_, rfl, hc.setPacking _ _ _⟩

/-- The listing goes over the selection, group by group, so it is the same text; then the same
artifact is recorded. -/
theorem Checksum.respects_module (s : Checksum.Settings) :
    (Checksum.module s).Respects Context.Alike := by
  refine Module.respects_ofSteps (.context_bind fun ctx ctx' h => ?_)
  rw [h.group_eq]
  obtain ⟨c, rfl, -⟩ := h
  refine (Matches.host _).bind fun output => ?_
  dsimp only
  split
  · exact .host _
  · exact (Matches.host _).bind fun _ => (Matches.host _).bind fun _ =>
      (Matches.host _).bind fun _ => (Matches.host _).bind fun _ =>
        .update fun _ _ h => h.record _

end Build

namespace Publish

/-- The arguments of `scp` are the files of the selection and a destination, which does not depend
on the catalog. -/
theorem Copy.arguments_eq (s : Copy.Settings) (h : ctx.Alike ctx') :
    Copy.arguments s ctx' = Copy.arguments s ctx := by
  rw [Copy.arguments, Copy.arguments, Copy.files, Copy.files, h.group_eq]
  obtain ⟨c, rfl, -⟩ := h
  rfl

/-- Whether there is anything to copy is a question about the selection. -/
theorem Copy.respects_module (s : Copy.Settings) : (Copy.module s).Respects Context.Alike := by
  refine Module.respects_ofReading fun ctx ctx' h => ?_
  rw [Copy.run, Copy.run, Copy.arguments_eq s h, Copy.files, Copy.files, h.group_eq]
  obtain ⟨c, rfl, -⟩ := h
  rfl

/-- The notes are the only artifact of their build in both catalogs, or in neither. -/
theorem Release.releaseNotes_eq (s : Release.Settings) (h : ctx.Alike ctx') :
    Release.releaseNotes s ctx' = Release.releaseNotes s ctx := by
  obtain ⟨c, rfl, hc⟩ := h
  have hperm := hc.perm_byId s.releaseNotes
  rw [Release.releaseNotes, Release.releaseNotes]
  dsimp only
  -- both catalogs have the same artifacts of that build, in some order: none, one or more
  cases hnotes : ctx.catalog.byId s.releaseNotes with
  | nil =>
    rw [hnotes] at hperm
    rw [List.nil_perm.mp hperm]
  | cons a rest =>
    rw [hnotes] at hperm
    cases rest with
    | nil => rw [List.singleton_perm.mp hperm]
    | cons b rest =>
      have hlength := hperm.length_eq
      match hother : c.byId s.releaseNotes with
      | [] =>
        rw [hother] at hlength
        cases hlength
      | [_] =>
        rw [hother] at hlength
        cases hlength
      | _ :: _ :: _ => rfl

/-- What is sent to the server is made from the notes and the selection. -/
theorem Release.publishWith_eq (s : Release.Settings) (client : ReleaseClient)
    (h : ctx.Alike ctx') :
    Release.publishWith s ctx' client = Release.publishWith s ctx client := by
  rw [Release.publishWith, Release.publishWith, Release.releaseNotes_eq s h, h.group_eq]
  obtain ⟨c, rfl, -⟩ := h
  rfl

/-- Up to the token it is the notes that matter, and then the course of requests. -/
theorem Release.respects_module (s : Release.Settings) :
    (Release.module s).Respects Context.Alike := by
  refine Module.respects_ofReading fun ctx ctx' h => ?_
  unfold Release.run
  simp only [Release.releaseNotes_eq s h, Release.publishWith_eq s _ h]
  obtain ⟨c, rfl, -⟩ := h
  rfl

end Publish

namespace Archive

variable {γ : Type} {format : Format} {labels : Labels} {s : Settings γ}

/-- Nothing of the catalog is part of a plan but the group it is made for. -/
theorem plans_iff (h : ctx.Alike ctx') {group : String × List Artifact} {plan : Plan} :
    Plans labels s ctx' group plan ↔ Plans labels s ctx group plan := by
  obtain ⟨c, rfl, -⟩ := h
  exact Iff.rfl

/-- The archives are written by plans, and a plan is made from its group. -/
theorem writeGroups_eq (h : ctx.Alike ctx') (files : List Path)
    (groups : List (String × List Artifact)) :
    writeGroups format labels s ctx' files groups =
      writeGroups format labels s ctx files groups := by
  induction groups with
  | nil => rfl
  | cons group rest ih =>
    rw [writeGroups, writeGroups, ih]
    obtain ⟨c, rfl, -⟩ := h
    rfl

/-- Packing, in either format: the same archives with the same entries at the same locations. -/
theorem respects_run (format : Format) (labels : Labels) (s : Settings γ) :
    (Module.ofSteps (run format labels s)).Respects Context.Alike := by
  refine Module.respects_ofSteps (.context_bind fun ctx ctx' h => ?_)
  have hpack : packAll format labels s ctx' = packAll format labels s ctx := by
    rw [packAll, packAll, h.group_eq]
    simp only [writeGroups_eq h]
  rw [hpack]
  exact (Matches.host _).bind fun _ => .update fun _ _ h => h.record _

end Archive

/-! ## What does not look at the catalog

These modules change other fields of the context or none, and pass the catalog on as it is. What has
to be seen is that each reads nothing of it. -/

namespace Setup

/-- Variables are captured. -/
theorem CaptureEnvironment.respects_module (u : Unit) :
    (CaptureEnvironment.module u).Respects Context.Alike := by
  refine Module.respects_ofSteps ((Matches.host _).bind fun _ => .update ?_)
  rintro ctx _ ⟨c, rfl, hc⟩
  exact ⟨c, rfl, hc⟩

/-- The name and the target directory are set. -/
theorem Project.respects_module (s : Project.Settings) :
    (Project.module s).Respects Context.Alike := by
  refine Module.respects_ofSteps
    ((Matches.host _).bind fun _ => (Matches.update ?_).bind fun _ => .host _)
  rintro ctx _ ⟨c, rfl, hc⟩
  exact ⟨c, rfl, hc⟩

/-- What `git` is asked depends on the variables of the context, and what is recorded is the answer.
-/
theorem Git.respects_module (u : Unit) : (Git.module u).Respects Context.Alike := by
  have hrecord : ∀ q ∈ Git.questions, ∀ answer ctx ctx', Context.Alike ctx ctx' →
      Context.Alike (q.record answer ctx) (q.record answer ctx') := by
    rintro q hq answer ctx _ ⟨c, rfl, hc⟩
    simp only [Git.questions, List.mem_cons, List.not_mem_nil, or_false] at hq
    -- each of the four answers goes to a field of its own, and none of them is the catalog
    rcases hq with rfl | rfl | rfl | rfl <;> exact ⟨c, rfl, hc⟩
  have haskAll : ∀ qs : List Git.Question, (∀ q ∈ qs, ∀ answer ctx ctx', Context.Alike ctx ctx' →
      Context.Alike (q.record answer ctx) (q.record answer ctx')) →
      Matches Context.Alike (Git.askAll qs) (Git.askAll qs) := by
    intro qs hqs
    induction qs with
    | nil => exact .pure _
    | cons q rest ih =>
      rw [List.forall_mem_cons] at hqs
      refine .context_bind ?_
      rintro ctx _ ⟨c, rfl, -⟩
      exact (Matches.host _).bind fun answer =>
        (Matches.update (hqs.1 answer)).bind fun _ => ih hqs.2
  refine Module.respects_ofSteps ((haskAll _ hrecord).bind fun _ => .context_bind ?_)
  rintro ctx _ ⟨c, rfl, -⟩
  dsimp only
  split
  · exact .host _
  · exact .host _

/-- The gate looks at one variable. -/
theorem PublishGate.respects_module (s : PublishGate.Settings) :
    (PublishGate.module s).Respects Context.Alike := by
  refine Module.respects_ofSteps (.context_bind ?_)
  rintro ctx _ ⟨c, rfl, -⟩
  dsimp only
  split
  · exact .pure _
  · split
    · exact .host _
    · refine (Matches.update ?_).bind fun _ => .host _
      rintro ctx _ ⟨c, rfl, hc⟩
      exact ⟨c, rfl, hc⟩

end Setup

namespace Build

/-- Templates see the name of the project and the version, and no artifact. -/
theorem Go.resolveAll_eq (s : Go.Settings) (h : ctx.Alike ctx') (targets : List Target) :
    s.resolveAll ctx' targets = s.resolveAll ctx targets := by
  induction targets with
  | nil => rfl
  | cons t rest ih =>
    rw [Go.Settings.resolveAll, Go.Settings.resolveAll, ih]
    obtain ⟨c, rfl, -⟩ := h
    rfl

/-- So the same builds are made, and each is recorded at the end of both catalogs. -/
theorem Go.respects_module (s : Go.Settings) : (Go.module s).Respects Context.Alike := by
  have hbuildAll : ∀ (env : Environment) (builds : List Go.TargetBuild),
      Matches Context.Alike (Go.buildAll s env builds) (Go.buildAll s env builds) := by
    intro env builds
    induction builds with
    | nil => exact .pure _
    | cons b rest ih =>
      exact (Matches.host _).bind fun _ => (Matches.host _).bind fun _ =>
        (Matches.update fun _ _ h => h.record _).bind fun _ => ih
  refine Module.respects_ofSteps (.context_bind fun ctx ctx' h => ?_)
  rw [Go.Settings.builds, Go.Settings.builds, Go.resolveAll_eq s h]
  obtain ⟨c, rfl, -⟩ := h
  exact (Matches.host _).bind fun builds => (Matches.host _).bind fun _ =>
    (hbuildAll _ builds).bind fun _ => .host _

/-- The section is that of the version. -/
theorem Changelog.respects_module (s : Changelog.Settings) :
    (Changelog.module s).Respects Context.Alike := by
  refine Module.respects_ofSteps (.context_bind ?_)
  rintro ctx _ ⟨c, rfl, -⟩
  refine (Matches.host _).bind fun contents => ?_
  have hversion : Changelog.wantedVersion { ctx with catalog := c } = Changelog.wantedVersion ctx :=
    rfl
  dsimp only
  rw [hversion]
  split
  · exact .host _
  · exact (Matches.host _).bind fun _ => (Matches.host _).bind fun _ =>
      (Matches.host _).bind fun _ => .update fun _ _ h => h.record _

end Build

/-! ## All modules -/

/-- Every built-in module but the listing respects what contexts have in common. -/
theorem BuiltInModule.respects_alike (m : BuiltInModule) (hm : m ≠ .listing) (s : m.Settings) :
    (m.module s).Respects Context.Alike := by
  cases m with
  | listing => exact absurd rfl hm
  | capture => exact Setup.CaptureEnvironment.respects_module s
  | project => exact Setup.Project.respects_module s
  | git => exact Setup.Git.respects_module s
  | gate => exact Setup.PublishGate.respects_module s
  | go => exact Build.Go.respects_module s
  | checksum => exact Build.Checksum.respects_module s
  | zip => exact Archive.respects_run _ _ s
  | tar => exact Archive.respects_run _ _ s
  | upx => exact Build.Upx.respects_module s
  | changelog => exact Build.Changelog.respects_module s
  | copy => exact Publish.Copy.respects_module s
  | release => exact Publish.Release.respects_module s

/-- **The order in which unrelated artifacts were produced does not matter.** If each build has the
same artifacts for each target in two catalogs, in the same order, then all selections from them are
the same, and the check of a selection says the same of both. With everything else in the context
being the same, so are the arguments of the two programs that are given files, the lines of a
listing of digests, the plans of archives with all their entries, and what is sent to publish a
release with its assets. Any built-in module, except the one that lists the catalog, comes to the
same result and leaves the same host, and the two contexts that it leaves again differ by such
catalogs only. -/
theorem Catalog.indistinguishable_of_sameSequences (c d : Catalog) (h : c.SameSequences d) :
    (∀ ids skip, c.group ids skip = d.group ids skip) ∧
    (∀ ids skip, (c.group ids skip).validate = (d.group ids skip).validate) ∧
    ∀ ctx : Context,
      let one := { ctx with catalog := c }
      let other := { ctx with catalog := d }
      (∀ s, Build.Upx.arguments s one = Build.Upx.arguments s other) ∧
      (∀ s, Publish.Copy.arguments s one = Publish.Copy.arguments s other) ∧
      (∀ s : Build.Checksum.Settings,
        Build.Checksum.lines s.algorithm (c.group s.builds s.skip).artifacts
          = Build.Checksum.lines s.algorithm (d.group s.builds s.skip).artifacts) ∧
      (∀ {γ : Type} (labels : Archive.Labels) (s : Archive.Settings γ) (plans : List Archive.Plan),
        List.Forall₂ (Archive.Plans labels s one) (c.group s.builds s.skip).toList plans
          ↔ List.Forall₂ (Archive.Plans labels s other) (d.group s.builds s.skip).toList plans) ∧
      (∀ s client, Publish.Release.publishWith s one client
        = Publish.Release.publishWith s other client) ∧
      ∀ m : BuiltInModule, m ≠ .listing → ∀ (s : m.Settings) (host : Host),
        let done := (m.module s).run one host
        let done' := (m.module s).run other host
        done.result = done'.result ∧ done.context.Alike done'.context ∧ done.host = done'.host := by
  refine ⟨h.group_eq, fun ids skip => by rw [h.group_eq], fun ctx => ?_⟩
  intro one other
  -- the contexts differ in their catalogs only, which is what the modules respect
  have halike : one.Alike other := ⟨d, rfl, h⟩
  refine ⟨fun s => ?_, fun s => (Publish.Copy.arguments_eq s halike).symm,
    fun s => by rw [h.group_eq], fun labels s plans => ?_,
    fun s client => (Publish.Release.publishWith_eq s client halike).symm,
    fun m hm s host => m.respects_alike hm s one other host halike⟩
  · rw [Build.Upx.arguments, Build.Upx.arguments, Build.Upx.files_eq s halike]
  · have hplans : Archive.Plans labels s other = Archive.Plans labels s one :=
      funext fun _ => funext fun _ => propext (Archive.plans_iff halike)
    rw [hplans, h.group_eq]

/-- Two executables were built, and the notes written between. -/
def notesBetween : Catalog :=
  ⟨[⟨"default", "demo", ⟨"dist/linux/demo"⟩, ⟨"linux", "amd64", none⟩, .raw⟩,
    ⟨"changelog", "CHANGES", ⟨"dist/CHANGES"⟩, {}, .raw⟩,
    ⟨"default", "demo.exe", ⟨"dist/windows/demo.exe"⟩, ⟨"windows", "amd64", none⟩, .raw⟩]⟩

/-- The same, with the notes written after both. -/
def notesLast : Catalog :=
  ⟨[⟨"default", "demo", ⟨"dist/linux/demo"⟩, ⟨"linux", "amd64", none⟩, .raw⟩,
    ⟨"default", "demo.exe", ⟨"dist/windows/demo.exe"⟩, ⟨"windows", "amd64", none⟩, .raw⟩,
    ⟨"changelog", "CHANGES", ⟨"dist/CHANGES"⟩, {}, .raw⟩]⟩

/-- The catalogs are different, and whatever is compressed or copied from them is the same. -/
theorem notesLast_indistinguishable :
    notesBetween.SameSequences notesLast ∧ notesBetween ≠ notesLast ∧
      notesBetween.group ["changelog", "default"] [] = notesLast.group ["changelog", "default"] [] ∧
      Build.Upx.arguments {} { catalog := notesBetween }
        = ["dist/linux/demo", "dist/windows/demo.exe"] ∧
      Build.Upx.arguments {} { catalog := notesLast }
        = ["dist/linux/demo", "dist/windows/demo.exe"] := by
  have hsame : notesBetween.SameSequences notesLast :=
    Catalog.SameSequences.exchange [_] [] (by decide)
  obtain ⟨hgroup, -, hcontexts⟩ := Catalog.indistinguishable_of_sameSequences _ _ hsame
  obtain ⟨harguments, -⟩ := hcontexts {}
  have hfirst : Build.Upx.arguments {} { catalog := notesBetween }
      = ["dist/linux/demo", "dist/windows/demo.exe"] := by decide +kernel
  exact ⟨hsame, by decide, hgroup _ _, hfirst, (harguments {}).symm.trans hfirst⟩

end ReleasePipeline
