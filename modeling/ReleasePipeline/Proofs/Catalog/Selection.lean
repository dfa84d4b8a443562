/-
Two ways of selecting artifacts, and where they part.

Packing goes through the catalog and asks of each artifact whether its build was asked for;
grouping goes through the builds that were asked for and takes the artifacts of each. They mean
the same artifacts. But for packing the builds are a set, and for grouping they are a list: a
build that is asked for twice has its artifacts grouped twice (`artifacts_group_perm`).

So the two agree on the number of artifacts exactly when no build with a selected artifact is
asked for twice; otherwise the program that compresses executables, which is given what is
grouped, is given a file more than once.
-/
import Mathlib.Data.List.Nodup
import Mathlib.Data.List.Perm.Basic
import ReleasePipeline.Build.Upx
import ReleasePipeline.Proofs.Catalog.Grouping
import ReleasePipeline.Proofs.Host.Effects

set_option autoImplicit false

namespace ReleasePipeline

/-! ## Going through a list key by key

These are facts about lists, in the form in which the selection needs them: grouping names keys one
after the other, once by the targets that there are and once by the builds that were asked for. -/

section KeyByKey

variable {α κ : Type} [DecidableEq κ]

/-- What one element contributes: itself, once for every time its key is named. -/
theorem flatMap_single_eq_replicate (keys : List κ) (k : κ) (x : α) :
    (keys.flatMap fun k' => if k = k' then [x] else []) = List.replicate (keys.count k) x := by
  induction keys with
  | nil => rfl
  | cons k' keys ih =>
    rw [List.flatMap_cons, ih, List.count_cons]
    by_cases h : k = k'
    · rw [if_pos h, if_pos (beq_iff_eq.mpr h.symm), List.replicate_succ, List.singleton_append]
    · rw [if_neg h, if_neg (by simpa using Ne.symm h), List.nil_append, Nat.add_zero]

/-- Taking the elements of one key after the other takes each as often as its key is named. -/
theorem flatMap_filter_perm (f : α → κ) (keys : List κ) (xs : List α) :
    (keys.flatMap fun k => xs.filter (f · = k)).Perm
      (xs.flatMap fun x => List.replicate (keys.count (f x)) x) := by
  induction xs with
  | nil => simp
  | cons x xs ih =>
    -- the new element stands in front of the others of its key, wherever that key is named
    have hcons : ∀ k, (x :: xs).filter (f · = k)
        = (if f x = k then [x] else []) ++ xs.filter (f · = k) := by
      intro k
      by_cases h : f x = k
      · simp [h]
      · simp [h]
    calc (keys.flatMap fun k => (x :: xs).filter (f · = k))
      _ = keys.flatMap fun k => (if f x = k then [x] else []) ++ xs.filter (f · = k) :=
          List.flatMap_congr fun k _ => hcons k
      _ |>.Perm ((keys.flatMap fun k => if f x = k then [x] else [])
            ++ keys.flatMap fun k => xs.filter (f · = k)) :=
          (List.flatMap_append_perm keys _ _).symm
      _ |>.Perm (List.replicate (keys.count (f x)) x
            ++ xs.flatMap fun x => List.replicate (keys.count (f x)) x) := by
          rw [flatMap_single_eq_replicate]
          exact ih.append_left _

/-- Repeating each element or leaving it out is filtering when none is repeated. -/
theorem flatMap_replicate_eq_filter {p : α → Bool} {n : α → Nat} {xs : List α}
    (h : ∀ x ∈ xs, n x = if p x then 1 else 0) :
    (xs.flatMap fun x => List.replicate (n x) x) = xs.filter p := by
  induction xs with
  | nil => rfl
  | cons x xs ih =>
    rw [List.forall_mem_cons] at h
    rw [List.flatMap_cons, ih h.2, h.1, List.filter_cons]
    by_cases hp : p x = true
    · rw [if_pos hp, if_pos hp]
      rfl
    · rw [if_neg hp, if_neg hp]
      rfl

/-- Repeating each element at least once keeps the length only if none is repeated. -/
theorem length_flatMap_replicate_eq_iff {n : α → Nat} {xs : List α} (h : ∀ x ∈ xs, 1 ≤ n x) :
    (xs.flatMap fun x => List.replicate (n x) x).length = xs.length ↔ ∀ x ∈ xs, n x = 1 := by
  -- nothing gets shorter, so no element can make up for one that is repeated
  have hle : ∀ {ys : List α}, (∀ y ∈ ys, 1 ≤ n y) →
      ys.length ≤ (ys.flatMap fun y => List.replicate (n y) y).length := by
    intro ys hys
    induction ys with
    | nil => exact Nat.le_refl 0
    | cons y ys ih =>
      rw [List.forall_mem_cons] at hys
      have hrest := ih hys.2
      rw [List.flatMap_cons, List.length_append, List.length_replicate, List.length_cons]
      omega
  induction xs with
  | nil => simp
  | cons x xs ih =>
    rw [List.forall_mem_cons] at h
    have hrest := hle h.2
    have hiff := ih h.2
    rw [List.forall_mem_cons, List.flatMap_cons, List.length_append, List.length_replicate,
      List.length_cons]
    constructor
    · intro hsame
      have hhead : n x = 1 := by omega
      exact ⟨hhead, hiff.mp (by omega)⟩
    · rintro ⟨hhead, htail⟩
      rw [hhead, hiff.mpr htail, Nat.add_comm]

end KeyByKey

namespace Catalog

variable {c : Catalog} {ids skip : List String} {a : Artifact}

/-! ## What is selected -/

/-- Packing asks each artifact for its build and its target. -/
theorem selects_iff : selects ids skip a = true ↔ a.id ∈ ids ∧ a.key ∉ skip := by
  rw [selects, Bool.and_eq_true, List.contains_iff_mem, Bool.not_eq_true', ← Bool.not_eq_true,
    List.contains_iff_mem]

/-- All grouped artifacts, target by target. -/
theorem artifacts_group :
    (c.group ids skip).artifacts = (c.group ids skip).keys.flatMap (c.ofTarget ids) := by
  have hrows : (c.group ids skip).groups.toList =
      (c.group ids skip).keys.map fun key => (key, c.ofTarget ids key) := toList_group
  rw [TargetGroups.artifacts, Table.values, hrows, List.map_map]
  rfl

/-- Grouping selects what packing selects. -/
theorem mem_artifacts_group :
    a ∈ (c.group ids skip).artifacts ↔ a ∈ c.artifacts ∧ selects ids skip a = true := by
  rw [artifacts_group, List.mem_flatMap, selects_iff]
  constructor
  · rintro ⟨key, hkey, ha⟩
    obtain ⟨hmem, hid, rfl⟩ := mem_ofTarget.mp ha
    exact ⟨hmem, hid, (mem_keys_group.mp hkey).1⟩
  · rintro ⟨hmem, hid, hskip⟩
    exact ⟨a.key, mem_keys_group.mpr ⟨hskip, a, hmem, hid, rfl⟩,
      mem_ofTarget.mpr ⟨hmem, hid, rfl⟩⟩

/-- No target has an empty group, so a selection is empty exactly if it groups nothing. -/
theorem isEmpty_group_iff :
    (c.group ids skip).isEmpty = true ↔ (c.group ids skip).artifacts = [] := by
  have hkeys : (c.group ids skip).isEmpty = true ↔ (c.group ids skip).keys = [] := by
    unfold TargetGroups.isEmpty Table.isEmpty TargetGroups.keys Table.keys
    rw [List.isEmpty_iff, List.map_eq_nil_iff]
  rw [hkeys, artifacts_group, List.flatMap_eq_nil_iff, List.eq_nil_iff_forall_not_mem]
  constructor
  · intro hnone key hkey
    exact absurd hkey (hnone key)
  · intro hnone key hkey
    exact ofTarget_ne_nil_iff.mpr (mem_keys_group.mp hkey).2 (hnone key hkey)

/-- Up to their order, the grouped artifacts are the candidates without those that are left
out: every target of such a candidate is gone through once. -/
theorem artifacts_group_perm_candidates :
    (c.group ids skip).artifacts.Perm ((c.candidates ids).filter fun a => a.key ∉ skip) := by
  have htargets : c.ofTarget ids = fun key => (c.candidates ids).filter (·.key = key) :=
    funext fun key => filter_candidates.symm
  -- keys stand in strictly ascending order, so no target is gone through twice
  have hnodup : (c.group ids skip).keys.Nodup := by
    refine (c.group ids skip).groups.ascending.imp fun {a b} hlt heq => ?_
    rw [heq] at hlt
    exact KeyOrder.irrefl b hlt
  rw [artifacts_group, htargets]
  refine (flatMap_filter_perm Artifact.key _ _).trans (List.Perm.of_eq ?_)
  refine flatMap_replicate_eq_filter fun a ha => ?_
  obtain ⟨id, hid, hbuild⟩ := List.mem_flatMap.mp ha
  obtain ⟨hmem, heq⟩ := List.mem_filter.mp hbuild
  have hkey : a.key ∈ (c.group ids skip).keys ↔ a.key ∉ skip := by
    rw [mem_keys_group, and_iff_left]
    exact ⟨a, hmem, by rwa [beq_iff_eq.mp heq], rfl⟩
  by_cases hskip : a.key ∈ skip
  · rw [List.count_eq_zero.mpr fun h => hkey.mp h hskip]
    simp [hskip]
  · rw [List.count_eq_one_of_mem hnodup (hkey.mpr hskip)]
    simp [hskip]

/-- Up to their order, the grouped artifacts are the selected ones of the catalog, each as often
as its build was asked for. -/
theorem artifacts_group_perm :
    (c.group ids skip).artifacts.Perm ((c.artifacts.filter (selects ids skip)).flatMap
      fun a => List.replicate (ids.count a.id) a) := by
  -- a build that was asked for is not filtered out by its id, only by its targets
  have hbuild : ∀ id ∈ ids, (c.byId id).filter (fun a => a.key ∉ skip)
      = (c.artifacts.filter (selects ids skip)).filter (·.id = id) := by
    intro id hid
    rw [byId, List.filter_filter, List.filter_filter]
    refine List.filter_congr fun a _ => ?_
    rw [Bool.eq_iff_iff]
    simp only [Bool.and_eq_true, decide_eq_true_eq, beq_iff_eq, selects_iff]
    constructor
    · rintro ⟨hskip, rfl⟩
      exact ⟨rfl, hid, hskip⟩
    · rintro ⟨rfl, -, hskip⟩
      exact ⟨hskip, rfl⟩
  calc (c.group ids skip).artifacts
    _ |>.Perm ((c.candidates ids).filter fun a => a.key ∉ skip) := artifacts_group_perm_candidates
    _ = ids.flatMap fun id => (c.artifacts.filter (selects ids skip)).filter (·.id = id) := by
        rw [candidates, List.filter_flatMap]
        exact List.flatMap_congr hbuild
    _ |>.Perm ((c.artifacts.filter (selects ids skip)).flatMap
          fun a => List.replicate (ids.count a.id) a) := flatMap_filter_perm Artifact.id ids _

/-- There are as many grouped artifacts as selected ones exactly when each was asked for once. -/
theorem length_artifacts_group_eq_iff :
    (c.group ids skip).artifacts.length = (c.artifacts.filter (selects ids skip)).length ↔
      ∀ a ∈ (c.group ids skip).artifacts, ids.count a.id = 1 := by
  have honce : ∀ a ∈ c.artifacts.filter (selects ids skip), 1 ≤ ids.count a.id := by
    intro a ha
    exact List.count_pos_iff.mpr (selects_iff.mp (List.mem_filter.mp ha).2).1
  rw [artifacts_group_perm.length_eq, length_flatMap_replicate_eq_iff honce]
  refine forall_congr' fun a => ?_
  rw [mem_artifacts_group, List.mem_filter]

/-- What packing marks is what grouping holds. -/
theorem artifacts_setPacking (packing : Packing) :
    (c.setPacking ids skip packing).artifacts = c.artifacts.map fun a =>
      if a ∈ (c.group ids skip).artifacts then { a with packing } else a := by
  refine List.map_congr_left fun a ha => ?_
  have hiff : a ∈ (c.group ids skip).artifacts ↔ selects ids skip a = true := by
    rw [mem_artifacts_group, and_iff_right ha]
  by_cases h : selects ids skip a = true
  · rw [if_pos h, if_pos (hiff.mpr h)]
  · rw [if_neg h, if_neg (hiff.not.mpr h)]

/-- Where nothing is grouped nothing is marked. -/
theorem setPacking_of_group_eq_nil (packing : Packing) (h : (c.group ids skip).artifacts = []) :
    c.setPacking ids skip packing = c := by
  have hsame : (c.setPacking ids skip packing).artifacts = c.artifacts := by
    rw [artifacts_setPacking, h]
    simp only [List.not_mem_nil, if_false, List.map_id']
  cases c
  exact congrArg Catalog.mk hsame

end Catalog

/-! ## Compressing -/

namespace Build.Upx

open Effect

/-- A run that ends well leaves the selected artifacts marked, and one that fails leaves all as it
was. Where there is nothing to compress it marks none, for then none is selected. -/
theorem allOrNothing_run (s : Settings) (ctx : Context) :
    RunM.AllOrNothing (fun left => left.catalog = ctx.catalog.setPacking s.builds s.skip .upx) ctx
      (run s) := by
  refine RunM.allOrNothing_context_bind ?_
  split
  -- with no files the program is not started at all, and this is logged
  next hempty =>
    refine RunM.allOrNothing_host _ ?_
    have hnil : (ctx.catalog.group s.builds s.skip).artifacts = [] := by
      rwa [files, List.isEmpty_iff, List.map_eq_nil_iff] at hempty
    exact (Catalog.setPacking_of_group_eq_nil .upx hnil).symm
  next =>
    exact RunM.allOrNothing_host_bind fun _ => RunM.allOrNothing_host_bind fun _ =>
      RunM.allOrNothing_update rfl

/-- The files given to the program are those of the selected artifacts, each as often as its
build was asked for. -/
theorem files_perm (s : Settings) (ctx : Context) :
    (files s ctx).Perm ((ctx.catalog.artifacts.filter (Catalog.selects s.builds s.skip)).flatMap
      fun a => List.replicate (s.builds.count a.id) a.location.text) := by
  have hperm : (ctx.catalog.group s.builds s.skip).artifacts.Perm _ := Catalog.artifacts_group_perm
  have hmap := hperm.map (·.location.text)
  rw [List.map_flatMap] at hmap
  simpa only [files, List.map_replicate] using hmap

/-- The module marks the selected artifacts if it succeeds, and otherwise nothing. -/
theorem catalog_module (s : Settings) (ctx : Context) (h : Host) :
    (∀ done, ((module s).run ctx h).result = .ok done →
      ((module s).run ctx h).context.catalog = ctx.catalog.setPacking s.builds s.skip .upx) ∧
    (∀ failure, ((module s).run ctx h).result = .error failure →
      ((module s).run ctx h).context = ctx) := by
  have hrun := allOrNothing_run s ctx h
  unfold module Module.ofSteps
  dsimp only
  -- what the steps leave is what the module leaves
  cases hends : ExceptT.run (run s) (ctx, h) with
  | mk r after =>
    rw [hends] at hrun
    cases r with
    | ok _ => exact ⟨fun _ _ => hrun, nofun⟩
    | error f => exact ⟨nofun, fun _ _ => hrun⟩

end Build.Upx

namespace Catalog

/-- **Packing and grouping select the same artifacts, but a build that is asked for twice is
grouped twice.** What packing marks are exactly the artifacts that are grouped, those of a
requested build whose target is not left out. Each is grouped as often as its build was asked
for, so the numbers agree exactly when each grouped artifact was asked for once. The program
that compresses executables is given the files in just these numbers, and the artifacts that
are marked when it succeeds are the selected ones; when it fails none is. -/
theorem grouped_as_often_as_requested (c : Catalog) (ids skip : List String) (packing : Packing) :
    (c.setPacking ids skip packing).artifacts = c.artifacts.map (fun a =>
      if a ∈ (c.group ids skip).artifacts then { a with packing } else a) ∧
    (∀ a, a ∈ (c.group ids skip).artifacts ↔ a ∈ c.artifacts ∧ a.id ∈ ids ∧ a.key ∉ skip) ∧
    (c.group ids skip).artifacts.Perm ((c.artifacts.filter (selects ids skip)).flatMap
      fun a => List.replicate (ids.count a.id) a) ∧
    ((c.group ids skip).artifacts.length = c.countSelected ids skip ↔
      ∀ a ∈ (c.group ids skip).artifacts, ids.count a.id = 1) ∧
    ∀ (s : Build.Upx.Settings) (ctx : Context) (h : Host),
      (∃ files, Build.Upx.arguments s ctx = s.arguments ++ files ∧
        files.Perm ((ctx.catalog.artifacts.filter (selects s.builds s.skip)).flatMap
          fun a => List.replicate (s.builds.count a.id) a.location.text)) ∧
      (∀ done, ((Build.Upx.module s).run ctx h).result = .ok done →
        ((Build.Upx.module s).run ctx h).context.catalog
          = ctx.catalog.setPacking s.builds s.skip .upx) ∧
      (∀ failure, ((Build.Upx.module s).run ctx h).result = .error failure →
        ((Build.Upx.module s).run ctx h).context = ctx) := by
  refine ⟨artifacts_setPacking packing, fun a => ?_, artifacts_group_perm, ?_, fun s ctx h => ?_⟩
  · rw [mem_artifacts_group, selects_iff]
  · rw [countSelected, List.countP_eq_length_filter]
    exact length_artifacts_group_eq_iff
  · exact ⟨⟨_, rfl, Build.Upx.files_perm s ctx⟩, Build.Upx.catalog_module s ctx h⟩

/-- An executable for one target. -/
def loneExecutable : Artifact where
  id := "default"
  filename := "demo"
  location := ⟨"dist/demo"⟩
  target := { os := "linux", arch := "amd64" }

/-- The numbers do not agree for every list of builds: of a build that is asked for twice, the
one artifact is marked once and grouped twice. -/
theorem lone_executable_grouped_twice :
    ¬ ∀ (c : Catalog) (ids skip : List String),
      (c.group ids skip).artifacts.length = c.countSelected ids skip := by
  intro h
  have hlone := h ⟨[loneExecutable]⟩ ["default", "default"] []
  have hgrouped : (group ⟨[loneExecutable]⟩ ["default", "default"] []).artifacts
      = [loneExecutable, loneExecutable] := rfl
  rw [hgrouped] at hlone
  exact absurd hlone (by decide)

end Catalog

end ReleasePipeline
