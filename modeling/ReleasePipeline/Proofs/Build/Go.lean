/-
What one build of a program makes can always be packed.

The targets of a build are the combinations of `goos`, `goarch` and, for one platform, `goarm`. They
are combinations without repetition, so they are different targets; that they also have different
keys depends on the names (`Settings.Plain`), since a key is put together from them: with a system
called `linux-arm` there could be two ways to read a key. This is the part that cannot be seen in
any one function (`nodup_key_targets`).

A build that ends well has recorded one artifact for each of them, in their order
(`exists_recorded_of_run`). Then what is known of artifacts with keys of their own applies: selected
by the name of the build, whatever targets are left out, they are grouped one by one, and are a
rectangle. So `build:zip` after `build:go`, with the settings as they are by default, never refuses
its selection.
-/
import ReleasePipeline.Build.Go
import ReleasePipeline.Proofs.Catalog.Single
import ReleasePipeline.Proofs.Host.Succeeding
import ReleasePipeline.Proofs.Target

set_option autoImplicit false

namespace ReleasePipeline.Build.Go

open Effect

variable {s : Settings}

/-! ## The targets of a matrix

From the lists of the settings to the keys of the targets. Lists without repetition give
combinations without repetition, and these give keys without repetition if the names are plain. -/

/-- Nothing is listed twice, and the names are plain. The names of systems and architectures that Go
knows of are. -/
structure Settings.Plain (s : Settings) : Prop where
  systems : s.systems.Nodup
  architectures : s.architectures.Nodup
  revisions : s.revisions.Nodup
  noDash : ∀ os ∈ s.systems, '-' ∉ os.toList
  noRevision : ∀ arch ∈ s.architectures, ¬ "armv".toList <+: arch.toList

/-- A combination takes each of its parts from the list for it. -/
theorem mem_combinations {t : Target} : t ∈ s.combinations ↔
    t.os ∈ s.systems ∧ t.arch ∈ s.architectures ∧ t.armVersion ∈ s.revisionsFor t.os t.arch := by
  simp only [Settings.combinations, List.mem_flatMap, List.mem_map]
  constructor
  · rintro ⟨os, hos, arch, harch, revision, hrevision, rfl⟩
    exact ⟨hos, harch, hrevision⟩
  · rintro ⟨hos, harch, hrevision⟩
    exact ⟨_, hos, _, harch, _, hrevision, rfl⟩

/-- The revisions of a platform are listed once, and where there are none there is one entry for
that. -/
theorem nodup_revisionsFor (h : s.revisions.Nodup) (os arch : String) :
    (s.revisionsFor os arch).Nodup := by
  unfold Settings.revisionsFor
  split
  · exact h.map fun _ _ => Option.some.inj
  · exact List.nodup_singleton none

/-- No combination is made twice. -/
theorem nodup_combinations (hs : s.Plain) : s.combinations.Nodup := by
  unfold Settings.combinations
  -- within one system, and then from one system to another
  rw [List.nodup_flatMap]
  constructor
  · intro os _
    rw [List.nodup_flatMap]
    constructor
    · intro arch _
      refine (nodup_revisionsFor hs.revisions os arch).map fun _ _ heq => ?_
      exact congrArg Target.armVersion heq
    · refine hs.architectures.imp fun {arch arch'} hne => ?_
      intro t ht ht'
      obtain ⟨_, _, rfl⟩ := List.mem_map.mp ht
      obtain ⟨_, _, heq⟩ := List.mem_map.mp ht'
      exact hne (congrArg Target.arch heq).symm
  · refine hs.systems.imp fun {os os'} hne => ?_
    intro t ht ht'
    simp only [List.mem_flatMap, List.mem_map] at ht ht'
    obtain ⟨_, _, _, _, rfl⟩ := ht
    obtain ⟨_, _, _, _, heq⟩ := ht'
    exact hne (congrArg Target.os heq).symm

/-- Of two combinations of one system and one architecture the revisions tell which is which. The
revision zero, which is not written, stands in no list together with no revision at all. -/
theorem eq_of_mem_combinations {t t' : Target} (ht : t ∈ s.combinations) (ht' : t' ∈ s.combinations)
    (hos : t.os = t'.os) (harch : t.arch = t'.arch) (hrevision : t.revision = t'.revision) :
    t = t' := by
  obtain ⟨os, arch, version⟩ := t
  obtain ⟨os', arch', version'⟩ := t'
  dsimp only at hos harch
  subst hos harch
  obtain ⟨-, -, hversion⟩ := mem_combinations.mp ht
  obtain ⟨-, -, hversion'⟩ := mem_combinations.mp ht'
  dsimp only [Settings.revisionsFor] at hversion hversion'
  -- the platform with revisions, where each has a number, or any other, where none has
  by_cases hplatform : os = "linux" ∧ arch = "arm"
  · rw [if_pos hplatform, List.mem_map] at hversion hversion'
    obtain ⟨v, -, rfl⟩ := hversion
    obtain ⟨v', -, rfl⟩ := hversion'
    have hcounts : ∀ w : UInt32, Target.revision ⟨os, arch, some w⟩ = w := fun w =>
      if_pos hplatform.2
    rw [hcounts, hcounts] at hrevision
    rw [hrevision]
  · rw [if_neg hplatform, List.mem_singleton] at hversion hversion'
    rw [hversion, hversion']

/-- The names of a combination are those of the lists. -/
theorem plain_of_mem_combinations (hs : s.Plain) {t : Target} (ht : t ∈ s.combinations) :
    t.Plain := by
  obtain ⟨hos, harch, -⟩ := mem_combinations.mp ht
  exact ⟨hs.noDash _ hos, hs.noRevision _ harch⟩

/-- Every target has a key of its own. -/
theorem nodup_key_targets (hs : s.Plain) : (s.targets.map Target.key).Nodup := by
  have hnodup : s.targets.Nodup := (nodup_combinations hs).filter _
  -- equal keys have equal parts, and these tell one combination from another
  refine hnodup.map_on fun t ht t' ht' hkey => ?_
  have hmem := List.mem_of_mem_filter ht
  have hmem' := List.mem_of_mem_filter ht'
  obtain ⟨hos, harch, hrevision⟩ :=
    ((plain_of_mem_combinations hs hmem).key_inj (plain_of_mem_combinations hs hmem')).mp hkey
  exact eq_of_mem_combinations hmem hmem' hos harch hrevision

/-! ## A build that ends well

The run is taken apart from its front, step by step, and only the builds in its middle change the
context. -/

/-- A build is for the target that it was worked out for. -/
theorem target_of_resolve {ctx : Context} {t : Target} {b : TargetBuild}
    (h : s.resolve ctx t = .ok b) : b.target = t := by
  obtain ⟨_, _, h⟩ := exists_of_bind_eq_ok h
  obtain ⟨_, _, h⟩ := exists_of_bind_eq_ok h
  obtain ⟨_, _, h⟩ := exists_of_bind_eq_ok h
  cases h
  rfl

/-- There is one build for each target. -/
theorem map_target_of_resolveAll {ctx : Context} {targets : List Target} {builds : List TargetBuild}
    (h : s.resolveAll ctx targets = .ok builds) : builds.map TargetBuild.target = targets := by
  induction targets generalizing builds with
  | nil =>
    cases h
    rfl
  | cons t rest ih =>
    obtain ⟨b, hfirst, h⟩ := exists_of_bind_eq_ok h
    obtain ⟨later, hlater, h⟩ := exists_of_bind_eq_ok h
    cases h
    rw [List.map_cons, target_of_resolve hfirst, ih hlater]

/-- If all builds come to their end, an artifact is recorded for each of them, in order. -/
theorem context_of_run_buildAll {env : Environment} {builds : List TargetBuild} {u : Unit}
    {before after : Context × Host}
    (hrun : ExceptT.run (buildAll s env builds) before = (.ok u, after)) :
    after.1 = before.1.record (builds.map fun b => b.toArtifact s.id) := by
  induction builds generalizing before with
  | nil =>
    have hsame : after = before := (Prod.mk.inj hrun).2.symm
    have hnone : before.1.catalog.addAll [] = before.1.catalog := by
      rw [Catalog.addAll, List.append_nil]
    rw [hsame, List.map_nil, Context.record, hnone]
  | cons b rest ih =>
    -- the build, the message that it is finished, the record, and the builds that are left
    obtain ⟨_, built, hbuild, hrun⟩ := exists_of_run_bind_ok hrun
    obtain ⟨_, told, hinfo, hrun⟩ := exists_of_run_bind_ok hrun
    obtain ⟨_, recorded, hupdate, hrun⟩ := exists_of_run_bind_ok hrun
    have hkept : told.1 = before.1 :=
      (RunM.of_run_host_ok hinfo).2.trans (RunM.of_run_host_ok hbuild).2
    rw [ih hrun, RunM.of_run_update_ok hupdate, hkept, List.map_cons]
    simp only [Context.record, Catalog.addAll, List.append_assoc, List.singleton_append]

/-- A run that ends well has recorded an artifact for each target, in order, and changed nothing
else in the context. -/
theorem exists_recorded_of_run {ctx : Context} {h : Host}
    (hok : ((module s).run ctx h).result = .ok ()) :
    ∃ builds : List TargetBuild, builds.map TargetBuild.target = s.targets ∧
      ((module s).run ctx h).context = ctx.record (builds.map fun b => b.toArtifact s.id) := by
  rw [module, Module.run_ofSteps] at hok ⊢
  cases hsteps : ExceptT.run (run s) (ctx, h) with
  | mk r after =>
    rw [hsteps] at hok
    dsimp only at hok ⊢
    subst hok
    rw [run, RunM.run_context_bind] at hsteps
    obtain ⟨builds, resolved, hresolve, hsteps⟩ := exists_of_run_bind_ok hsteps
    obtain ⟨_, begun, hbefore, hsteps⟩ := exists_of_run_bind_ok hsteps
    obtain ⟨_, built, hall, hafter⟩ := exists_of_run_bind_ok hsteps
    -- resolving and the hooks leave the context alone
    obtain ⟨hresolve, hresolved⟩ := RunM.of_run_host_ok hresolve
    have hbuilds := (HostM.of_run_ofExcept_ok hresolve).1
    have hbegun : begun.1 = ctx := (RunM.of_run_host_ok hbefore).2.trans hresolved
    have hended : after.1 = built.1 := (RunM.of_run_host_ok hafter).2
    refine ⟨builds, map_target_of_resolveAll hbuilds, ?_⟩
    rw [hended, context_of_run_buildAll hall, hbegun]

/-- **One build can always be packed.** Let nothing be listed twice in the settings and the names of
systems and architectures be plain, and let no artifact have the name of the build before. If the
build ends well, one artifact for each target has been added to the catalog, all with the name of
the build; every target has a key of its own, and so has every artifact. Selected by the name of the
build, whatever targets are left out, each of the others has a group, with one artifact, and the
selection is a rectangle. -/
theorem run_packable (s : Settings) (ctx : Context) (h : Host) (hs : s.Plain)
    (hnew : ∀ a ∈ ctx.catalog.artifacts, a.id ≠ s.id)
    (hok : ((module s).run ctx h).result = .ok ()) :
    let catalog := ((module s).run ctx h).context.catalog
    ∃ built : List Artifact,
      catalog.artifacts = ctx.catalog.artifacts ++ built ∧
      built.map Artifact.target = s.targets ∧
      (∀ a ∈ built, a.id = s.id) ∧
      (s.targets.map Target.key).Nodup ∧
      (built.map Artifact.key).Nodup ∧
      ∀ skip : List String,
        (catalog.group [s.id] skip).toList.Perm
          ((built.filter (·.key ∉ skip)).map fun a => (a.key, [a])) ∧
        (catalog.group [s.id] skip).validate = .ok () := by
  intro catalog
  obtain ⟨builds, htargets, hcontext⟩ := exists_recorded_of_run hok
  have hcatalog : catalog = ctx.catalog.addAll (builds.map fun b => b.toArtifact s.id) :=
    congrArg Context.catalog hcontext
  have hmap : (builds.map fun b => b.toArtifact s.id).map Artifact.target = s.targets := by
    rw [List.map_map, ← htargets]
    rfl
  have hid : ∀ a ∈ builds.map fun b => b.toArtifact s.id, a.id = s.id := by
    intro a ha
    obtain ⟨b, -, rfl⟩ := List.mem_map.mp ha
    rfl
  -- of the artifacts only their targets and their build name matter from here on
  generalize (builds.map fun b => b.toArtifact s.id) = built at hcatalog hmap hid
  have hkeys := nodup_key_targets hs
  have hdistinct : (built.map Artifact.key).Nodup := by
    rw [← hmap, List.map_map, List.Nodup, List.pairwise_map] at hkeys
    rw [List.Nodup, List.pairwise_map]
    exact hkeys.imp fun hne heq => hne (Artifact.key_inj.mp heq)
  refine ⟨built, ?_, hmap, hid, hkeys, hdistinct, fun skip => ?_⟩
  · rw [hcatalog, Catalog.artifacts_addAll]
  · rw [hcatalog]
    exact ⟨Catalog.perm_toList_group_addAll hnew hid hdistinct skip,
      Catalog.validate_group_addAll hnew hid hdistinct skip⟩

/-- Two systems and two architectures, one of which has revisions. One of these is zero, which is
not written; one combination is left out. -/
def crossBuild : Settings where
  systems := ["linux", "windows"]
  architectures := ["amd64", "arm"]
  revisions := [0, 7]
  linkerFlags := ""
  output := "demo"
  skip := ["windows-arm"]

/-- All programs end well and leave the files as they are. -/
def obligingHost : Host where
  programs := fun _ _ files => .ok { status := .exited 0, files }

/-- A project in whose catalog there is an artifact of another build. -/
def withScript : Context where
  projectName := "demo"
  targetDirectory := ⟨"dist"⟩
  catalog := ⟨[⟨"scripts", "demo.sh", ⟨"demo.sh"⟩, {}, .raw⟩]⟩

/-- The build is for four targets. Selected with one of them left out, the others are still a
rectangle. -/
theorem crossBuild_packable :
    let done := (module crossBuild).run withScript obligingHost
    crossBuild.Plain ∧ (∀ a ∈ withScript.catalog.artifacts, a.id ≠ crossBuild.id) ∧
      done.result = .ok () ∧
      crossBuild.targets.map Target.key
        = ["linux-amd64", "linux-arm", "linux-armv7", "windows-amd64"] ∧
      (done.context.catalog.group [crossBuild.id] ["linux-arm"]).validate = .ok () := by
  dsimp only
  have hplain : crossBuild.Plain :=
    ⟨by decide, by decide, by decide, by decide, by decide⟩
  have hnew : ∀ a ∈ withScript.catalog.artifacts, a.id ≠ crossBuild.id := by decide
  have hok : ((module crossBuild).run withScript obligingHost).result = .ok () := by
    decide +kernel
  obtain ⟨_, -, -, -, -, -, hpacked⟩ :=
    run_packable crossBuild withScript obligingHost hplain hnew hok
  exact ⟨hplain, hnew, hok, by decide +kernel, (hpacked ["linux-arm"]).2⟩

end ReleasePipeline.Build.Go
