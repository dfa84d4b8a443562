/-
Packing keeps the targets.

A module that packs artifacts makes one archive out of each group, and records it for the target of
the first artifact of the group. So what it has to be seen is that this gives back the key under
which the group was found (`key_toArtifact`), also where there is no target and the key is `noarch`,
and where two targets have one key, as `arm` with revision seven and an architecture that is called
`armv7` have.

Then the archives are one for each key, in the order of the keys. Selected by themselves, with
`builds: ["archive"]` in the settings of a later module, they are grouped as they are
(`toList_group_addAll`), and a selection in which every target has one artifact is a rectangle
(`validate_of_single`): what comes after finds the targets that there were, less those that it
skips.
-/
import ReleasePipeline.Proofs.Archive.Writing
import ReleasePipeline.Proofs.Catalog.Single

set_option autoImplicit false

namespace ReleasePipeline

/-! ## The archives of a run

From the first artifact of a group to the key of its archive, and from there to the keys of all
archives. -/

namespace Archive

section Targets

variable {γ : Type} {format : Format} {labels : Labels} {s : Settings γ} {m : Module}
  {ctx : Context}

/-- An archive is for the target that the first artifact of its group is for, and so it has the key
of that artifact. -/
theorem key_toArtifact {plan : Plan} {group : List Artifact} {first : Artifact}
    (htarget : plan.target = group.head?.bind Artifact.target?) (hfirst : group.head? = some first)
    (id : String) (location : Path) : (plan.toArtifact id location).key = first.key := by
  rw [hfirst, Option.bind_some] at htarget
  have htarget? : (plan.toArtifact id location).target? = first.target? := by
    rw [Plan.toArtifact, htarget, Artifact.target?, Artifact.target?]
    -- an artifact without an operating system and an architecture has no target, and its archive
    -- has none
    by_cases hnone : first.target.os = "" ∧ first.target.arch = ""
    · rw [if_pos hnone]
      rfl
    · rw [if_neg hnone]
      exact if_neg hnone
  rw [Artifact.key, Artifact.key, htarget?]

/-- The archive of a target has its key. -/
theorem key_of_plans {c : Catalog} {ids skip : List String} {key : String} {plan : Plan}
    (hkey : key ∈ (c.group ids skip).keys)
    (hplan : Plans labels s ctx (key, c.ofTarget ids key) plan)
    (id : String) (location : Path) : (plan.toArtifact id location).key = key := by
  obtain ⟨-, htarget⟩ := hplan.of_group
  -- a key that is among those of the selection has artifacts, and so there is a first one
  have hne := Catalog.ofTarget_ne_nil_iff.mpr (Catalog.mem_keys_group.mp hkey).2
  obtain ⟨first, rest, hgroup⟩ := List.exists_cons_of_ne_nil hne
  rw [hgroup] at htarget
  have hfirst : first ∈ c.ofTarget ids key := by
    rw [hgroup]
    exact List.mem_cons_self
  rw [key_toArtifact htarget rfl, (Catalog.mem_ofTarget.mp hfirst).2.2]

/-- So the archives have the keys of the groups, in their order. -/
theorem map_key_archives {c : Catalog} {ids skip : List String} {plans : List Plan}
    (hplans : List.Forall₂ (Plans labels s ctx) (c.group ids skip).toList plans) :
    (plans.map fun plan => plan.toArtifact s.id (plan.locationIn ctx)).map Artifact.key
      = (c.group ids skip).keys := by
  rw [Catalog.toList_group, List.forall₂_map_left_iff] at hplans
  have hkeys : ∀ key ∈ (c.group ids skip).keys, ∀ plan,
      Plans labels s ctx (key, c.ofTarget ids key) plan →
        (plan.toArtifact s.id (plan.locationIn ctx)).key = key :=
    fun key hkey plan hplan => key_of_plans hkey hplan s.id _
  rw [List.map_map]
  generalize (c.group ids skip).keys = keys at hplans hkeys ⊢
  induction hplans with
  | nil => rfl
  | cons hplan _ ih =>
    obtain ⟨hfirst, hrest⟩ := List.forall_mem_cons.mp hkeys
    rw [List.map_cons, Function.comp_apply, hfirst _ hplan, ih hrest]

/-- **Packing preserves the targets.** If a module that packs artifacts ends well, the catalog is
what it was, and at its end one archive for each target of the selection: their keys are those of
the groups, in ascending order, and all have the build name of the settings. If no artifact had that
name before, the archives selected by it are grouped one by one, whatever targets are left out, so
that the targets are the ones that there were, without those; and this is a rectangle. -/
theorem packing_preserves_targets (hm : IsPacker format labels s m) (ctx : Context) (h : Host)
    (hok : (m.run ctx h).result = .ok ()) :
    let selected := ctx.catalog.group s.builds s.skip
    let catalog := (m.run ctx h).context.catalog
    ∃ archives : List Artifact,
      catalog.artifacts = ctx.catalog.artifacts ++ archives ∧
      archives.map Artifact.key = selected.keys ∧
      selected.keys.Pairwise (· < ·) ∧
      (∀ a ∈ archives, a.id = s.id) ∧
      ((∀ a ∈ ctx.catalog.artifacts, a.id ≠ s.id) → ∀ skip : List String,
        (catalog.group [s.id] skip).keys = selected.keys.filter (· ∉ skip) ∧
        (catalog.group [s.id] skip).toList
          = (archives.filter (·.key ∉ skip)).map (fun a => (a.key, [a])) ∧
        (catalog.group [s.id] skip).validate = .ok ()) := by
  intro selected catalog
  obtain ⟨plans, hdone⟩ := hm.exists_succeeded hok
  have hcatalog : catalog = ctx.catalog.addAll
      (plans.map fun plan => plan.toArtifact s.id (plan.locationIn ctx)) :=
    congrArg Context.catalog hdone.context
  have hkeys := map_key_archives hdone.planned
  have hid : ∀ a ∈ plans.map fun plan => plan.toArtifact s.id (plan.locationIn ctx),
      a.id = s.id := by
    intro a ha
    obtain ⟨plan, -, rfl⟩ := List.mem_map.mp ha
    rfl
  -- the archives are looked at by their keys and their build name only from here on
  have hascending : selected.keys.Pairwise (· < ·) := selected.ascending_keys
  generalize (plans.map fun plan => plan.toArtifact s.id (plan.locationIn ctx)) = archives
    at hcatalog hkeys hid
  refine ⟨archives, ?_, hkeys, hascending, hid, fun hnew skip => ?_⟩
  · rw [hcatalog, Catalog.artifacts_addAll]
  · rw [hcatalog]
    -- the selection by the build name of the archives finds these archives and no other artifact
    have hrows := Catalog.toList_group_addAll hnew hid (hkeys.symm ▸ hascending) skip
    refine ⟨?_, hrows, TargetGroups.validate_of_single rfl fun key group hrow => ?_⟩
    · rw [TargetGroups.keys, Table.keys, ← TargetGroups.toList, hrows, List.map_map, ← hkeys,
        List.filter_map]
      rfl
    · rw [hrows] at hrow
      obtain ⟨a, ha, hrow⟩ := List.mem_map.mp hrow
      cases hrow
      exact ⟨a, rfl, hid a (List.mem_filter.mp ha).1⟩

end Targets

/-- An executable for one revision of an architecture, and a script for any target. -/
def mixed : Context where
  targetDirectory := ⟨"dist"⟩
  catalog :=
    ⟨[⟨"default", "demo", ⟨"demo"⟩, ⟨"linux", "arm", some 7⟩, .raw⟩,
      ⟨"default", "demo.sh", ⟨"demo.sh"⟩, {}, .raw⟩]⟩

/-- Both are there. -/
def mixedHost : Host where
  files := { nodes := [(["demo"], .file (.ofText "elf")), (["demo.sh"], .file (.ofText "#!"))] }

/-- The archives are called after their targets, as far as these have names. -/
def perTarget : Build.Zip.Settings :=
  { Build.Zip.schema.defaults with
    commonDirectory := "", output := "demo{{ArchName}}.zip", files := [] }

/-- The archives are for the same revision and for any target. -/
theorem revision_and_any_target_preserved :
    let done := (Build.Zip.module perTarget).run mixed mixedHost
    done.result = .ok () ∧ (∀ a ∈ mixed.catalog.artifacts, a.id ≠ perTarget.id) ∧
      (done.context.catalog.group ["archive"] []).keys = ["linux-armv7", "noarch"] ∧
      (done.context.catalog.group ["archive"] ["noarch"]).keys = ["linux-armv7"] ∧
      (done.context.catalog.group ["archive"] ["noarch"]).validate = .ok () := by
  dsimp only
  have hok : ((Build.Zip.module perTarget).run mixed mixedHost).result = .ok () := by
    decide +kernel
  have hnew : ∀ a ∈ mixed.catalog.artifacts, a.id ≠ perTarget.id := by decide
  -- once with all targets, and once without the one that is for any
  obtain ⟨archives, -, -, -, -, hagain⟩ :=
    packing_preserves_targets (.zip perTarget) mixed mixedHost hok
  have hselected : (mixed.catalog.group perTarget.builds perTarget.skip).keys
      = ["linux-armv7", "noarch"] := by decide +kernel
  have hid : perTarget.id = "archive" := rfl
  rw [hselected, hid] at hagain
  obtain ⟨hall, -, -⟩ := hagain hnew []
  obtain ⟨hwithout, -, hvalid⟩ := hagain hnew ["noarch"]
  exact ⟨hok, hnew, hall.trans (by decide), hwithout.trans (by decide), hvalid⟩

end Archive

end ReleasePipeline
