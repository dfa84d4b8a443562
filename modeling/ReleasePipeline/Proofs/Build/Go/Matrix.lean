/-
What the settings of a build expand to.

The combinations of a build are made by going through `goos`, and for each system through `goarch`;
only one platform, `linux` on `arm`, is gone through revision by revision. Those whose key is in
`skip` are dropped before anything is done for them, and the others are rendered one after the
other, up to the first that cannot be. So both outcomes are described by the targets that remain, in
their order: the builds, if each of them renders (`resolveAll_eq_ok_iff`), or else the fault of the
first that does not (`resolveAll_eq_error_iff`). A target has two templates that can be at fault,
`ldflags` and `output`. The one for the directory is fixed, and always renders
(`render_directoryTemplate`).

Targets are dropped here by the key of the target, and later, when artifacts are selected, by the
key of the artifact. Unless a target has no name at all these are the same, and then leaving out a
key means the same in both places (`Artifact.mem_group_iff`). A target without any name has the key
`-`, but its artifact has `noarch`.
-/
import Mathlib.Data.List.ProdSigma
import ReleasePipeline.Proofs.Build.Go
import ReleasePipeline.Proofs.Template.Rendering

set_option autoImplicit false

namespace ReleasePipeline

/-! ## The key of an artifact -/

namespace Artifact

variable {a : Artifact} {c : Catalog} {ids skip : List String} {key : String}
  {group : List Artifact}

/-- An artifact that is for a platform has the key of that platform. -/
theorem key_eq_of_named (h : a.target.os ≠ "" ∨ a.target.arch ≠ "") : a.key = a.target.key := by
  have hnamed : ¬ (a.target.os = "" ∧ a.target.arch = "") := by
    rintro ⟨hos, harch⟩
    rcases h with h | h
    · exact h hos
    · exact h harch
  rw [Artifact.key, target?, if_neg hnamed]

/-- A group of a selection holds an artifact if its build was asked for and the group is that of its
key. -/
theorem mem_group_iff (ha : a ∈ c.artifacts) (hget : (c.group ids skip).get? key = some group) :
    a ∈ group ↔ a.id ∈ ids ∧ a.key = key := by
  rw [Catalog.get?_group] at hget
  split at hget
  · cases hget
  · rw [← Option.some.inj hget, Catalog.mem_ofTarget]
    exact and_iff_right ha

end Artifact

namespace Build.Go

variable {s : Settings} {ctx : Context} {t : Target} {b : TargetBuild} {f : Failure}

/-! ## Combinations -/

/-- The combinations are the pairs of a system and an architecture in the order of the two lists,
each with its revisions if it is the one platform that has any. -/
theorem combinations_eq (s : Settings) :
    s.combinations = (s.systems ×ˢ s.architectures).flatMap fun platform =>
      (if platform = ("linux", "arm") then s.revisions.map some else [none]).map
        (Target.mk platform.1 platform.2) := by
  simp only [Settings.combinations, Settings.revisionsFor, SProd.sprod, List.product,
    List.flatMap_assoc, List.flatMap_map, Prod.mk.injEq]

/-- What remains of the combinations when those with a key that is left out are dropped. -/
theorem targets_eq (s : Settings) :
    s.targets = s.combinations.filter fun t => t.key ∉ s.skip := by
  refine List.filter_congr fun t _ => ?_
  simp only [List.contains_eq_mem, decide_not]

/-! ## One target

The flags are rendered first, then the directory, then the output. What is worked out for a target
does not depend on the other targets. -/

/-- The name of a target's directory: the project and the target, with variables filled in. -/
def directoryName (ctx : Context) (t : Target) : String :=
  ctx.environment.expand (ctx.projectName ++ "-" ++ t.key)

/-- The build has what its target, its directory and the two templates say. -/
structure Settings.Renders (s : Settings) (ctx : Context) (t : Target) (b : TargetBuild) :
    Prop where
  target : b.target = t
  linkerFlags : (targetScope ctx t).render "build:go" s.linkerFlags = .ok b.linkerFlags
  directory : b.directory = ctx.targetDirectory.join ⟨directoryName ctx t⟩
  output : (targetScope ctx t).render "build:go" s.output = .ok b.output

/-- The first fault of a target: its flags do not render, or they do and its output does not. -/
inductive Settings.Faults (s : Settings) (ctx : Context) (t : Target) : Failure → Prop
  | linkerFlags {e : TemplateError}
    (fault : (targetScope ctx t).render "build:go" s.linkerFlags = .error e) :
    Faults s ctx t (.during .renderingFlags (.because (.template e)))
  | output {flags : String} {e : TemplateError}
    (linkerFlags : (targetScope ctx t).render "build:go" s.linkerFlags = .ok flags)
    (fault : (targetScope ctx t).render "build:go" s.output = .error e) :
    Faults s ctx t (.during .renderingOutput (.because (.template e)))

section Directory

open Template

/-- The parts of the template for directories: three fields with dashes between them. -/
theorem pieces_directoryTemplate : pieces directoryTemplate.toList =
    [.placeholder Field.projectName.name "{{ProjectName}}".toList, .char '-',
      .placeholder Field.os.name "{{OS}}".toList, .char '-',
      .placeholder Field.archName.name "{{ArchName}}".toList] := by
  decide +kernel

/-- The template for directories renders whatever the target. -/
theorem render_directoryTemplate (ctx : Context) (t : Target) :
    (targetScope ctx t).render "build:go" directoryTemplate = .ok (directoryName ctx t) := by
  have hdash : ∀ (offset : Nat) (name spelling : List Char) (rest : List Piece),
      renderPieces (targetScope ctx t) "build:go" offset
          (.char '-' :: .placeholder name spelling :: rest)
        = (renderPieces (targetScope ctx t) "build:go" (offset + 1)
            (.placeholder name spelling :: rest)).map ('-' :: ·) := by
    intro offset name spelling rest
    exact renderPieces_char offset (by simp)
  -- the three fields of the template are those that the key is put together from
  have hname : String.ofList
      (ctx.projectName.toList ++ '-' :: (t.os.toList ++ '-' :: t.archName.toList))
        = ctx.projectName ++ "-" ++ t.key := by
    rw [← String.toList_inj, Target.key]
    simp
  rw [Scope.render_eq, pieces_directoryTemplate,
    renderPieces_placeholder 0 (Field.ofName?_name .projectName), hdash,
    renderPieces_placeholder _ (Field.ofName?_name .os), hdash,
    renderPieces_placeholder _ (Field.ofName?_name .archName)]
  simp only [renderPieces, Except.map, Scope.value, List.append_nil]
  rw [directoryName, ← hname]
  rfl

end Directory

/-- What becomes of a target is decided by its two templates. -/
theorem resolve_eq (s : Settings) (ctx : Context) (t : Target) :
    s.resolve ctx t =
      match (targetScope ctx t).render "build:go" s.linkerFlags,
        (targetScope ctx t).render "build:go" s.output with
      | .error e, _ => .error (.during .renderingFlags (.because (.template e)))
      | .ok _, .error e => .error (.during .renderingOutput (.because (.template e)))
      | .ok linkerFlags, .ok output => .ok
          { target := t, linkerFlags,
            directory := ctx.targetDirectory.join ⟨directoryName ctx t⟩, output } := by
  rw [Settings.resolve]
  simp only [renderFor, render_directoryTemplate]
  cases (targetScope ctx t).render "build:go" s.linkerFlags with
  | error e => rfl
  | ok flags =>
    cases (targetScope ctx t).render "build:go" s.output with
    | error e => rfl
    | ok output => rfl

/-- A build is worked out exactly if it is what the target renders to. -/
theorem resolve_eq_ok_iff : s.resolve ctx t = .ok b ↔ s.Renders ctx t b := by
  constructor
  · intro h
    rw [resolve_eq] at h
    split at h
    · cases h
    · cases h
    · next hflags houtput =>
      rw [← Except.ok.inj h]
      exact ⟨rfl, hflags, rfl, houtput⟩
  · rintro ⟨htarget, hflags, hdirectory, houtput⟩
    obtain ⟨target, linkerFlags, directory, output⟩ := b
    dsimp only at htarget hflags hdirectory houtput
    rw [resolve_eq, hflags, houtput, htarget, hdirectory]

/-- And a failure is told exactly if it is the first fault of the target. -/
theorem resolve_eq_error_iff : s.resolve ctx t = .error f ↔ s.Faults ctx t f := by
  constructor
  · intro h
    rw [resolve_eq] at h
    split at h
    · next hflags =>
      rw [← Except.error.inj h]
      exact .linkerFlags hflags
    · next hflags houtput =>
      rw [← Except.error.inj h]
      exact .output hflags houtput
    · cases h
  · rintro (hflags | ⟨hflags, houtput⟩)
    · rw [resolve_eq, hflags]
    · rw [resolve_eq, hflags, houtput]

/-- A target has a fault exactly if one of its templates does not render. -/
theorem exists_faults_iff : (∃ f, s.Faults ctx t f) ↔
    ∃ text ∈ [s.linkerFlags, directoryTemplate, s.output], ∃ e,
      (targetScope ctx t).render "build:go" text = .error e := by
  constructor
  · rintro ⟨_, hflags | ⟨-, houtput⟩⟩
    · exact ⟨s.linkerFlags, by simp, _, hflags⟩
    · exact ⟨s.output, by simp, _, houtput⟩
  · rintro ⟨text, htext, e, hfault⟩
    simp only [List.mem_cons, List.not_mem_nil, or_false] at htext
    rcases htext with rfl | rfl | rfl
    · exact ⟨_, .linkerFlags hfault⟩
    · rw [render_directoryTemplate] at hfault
      cases hfault
    · -- the output is rendered only after the flags
      cases hflags : (targetScope ctx t).render "build:go" s.linkerFlags with
      | error e => exact ⟨_, .linkerFlags hflags⟩
      | ok flags => exact ⟨_, .output hflags hfault⟩

/-! ## All targets

The same for a list of targets: the outcomes of all of them, or the fault of the first that has one,
after others that have none. -/

/-- All targets render, and the builds are what they render to, in order. -/
theorem resolveAll_eq_ok_iff {targets : List Target} {builds : List TargetBuild} :
    s.resolveAll ctx targets = .ok builds ↔ List.Forall₂ (s.Renders ctx) targets builds := by
  induction targets generalizing builds with
  | nil =>
    rw [Settings.resolveAll, List.forall₂_nil_left_iff]
    exact ⟨fun h => (Except.ok.inj h).symm, fun h => congrArg Except.ok h.symm⟩
  | cons t rest ih =>
    rw [List.forall₂_cons_left_iff]
    constructor
    · intro h
      obtain ⟨b, hfirst, h⟩ := exists_of_bind_eq_ok h
      obtain ⟨later, hlater, h⟩ := exists_of_bind_eq_ok h
      exact ⟨b, later, resolve_eq_ok_iff.mp hfirst, ih.mp hlater, (Except.ok.inj h).symm⟩
    · rintro ⟨b, later, hfirst, hlater, rfl⟩
      rw [Settings.resolveAll, resolve_eq_ok_iff.mpr hfirst, ih.mpr hlater]
      rfl

/-- If there is a build for each target, each target renders. -/
theorem exists_renders_of_forall₂ {targets : List Target} {builds : List TargetBuild}
    (h : List.Forall₂ (s.Renders ctx) targets builds) : ∀ t ∈ targets, ∃ b, s.Renders ctx t b := by
  induction h with
  | nil => simp
  | cons hfirst _ ih => exact List.forall_mem_cons.mpr ⟨⟨_, hfirst⟩, ih⟩

/-- Some target has a fault, none before it has, and that fault is what is told. -/
theorem resolveAll_eq_error_iff {targets : List Target} :
    s.resolveAll ctx targets = .error f ↔ ∃ before t after, targets = before ++ t :: after ∧
      (∀ u ∈ before, ∃ b, s.Renders ctx u b) ∧ s.Faults ctx t f := by
  induction targets with
  | nil =>
    rw [Settings.resolveAll]
    simp
  | cons first rest ih =>
    rw [Settings.resolveAll]
    -- the first target is the one at fault, or the fault is told by the others
    cases hfirst : s.resolve ctx first with
    | error e =>
      constructor
      · intro h
        obtain rfl : e = f := Except.error.inj h
        exact ⟨[], first, rest, rfl, by simp, resolve_eq_error_iff.mp hfirst⟩
      · rintro ⟨before, t, after, hsplit, hbefore, hfault⟩
        rcases List.cons_eq_append_iff.mp hsplit with ⟨rfl, htail⟩ | ⟨before, rfl, -⟩
        · obtain ⟨rfl, -⟩ := List.cons.inj htail
          rw [resolve_eq_error_iff.mpr hfault] at hfirst
          exact congrArg Except.error (Except.error.inj hfirst).symm
        · -- the first target is among those that render
          obtain ⟨b, hb⟩ := hbefore first List.mem_cons_self
          rw [resolve_eq_ok_iff.mpr hb] at hfirst
          cases hfirst
    | ok b =>
      have hrest : (do let later ← s.resolveAll ctx rest; return b :: later) = .error f ↔
          s.resolveAll ctx rest = .error f := by
        cases s.resolveAll ctx rest with
        | error e => exact Iff.rfl
        | ok later => exact iff_of_false nofun nofun
      have hrenders : s.Renders ctx first b := resolve_eq_ok_iff.mp hfirst
      refine hrest.trans (ih.trans ?_)
      constructor
      · rintro ⟨before, t, after, rfl, hbefore, hfault⟩
        exact ⟨first :: before, t, after, rfl,
          List.forall_mem_cons.mpr ⟨⟨b, hrenders⟩, hbefore⟩, hfault⟩
      · rintro ⟨before, t, after, hsplit, hbefore, hfault⟩
        rcases List.cons_eq_append_iff.mp hsplit with ⟨rfl, htail⟩ | ⟨before, rfl, htail⟩
        · obtain ⟨rfl, -⟩ := List.cons.inj htail
          rw [resolve_eq_error_iff.mpr hfault] at hfirst
          cases hfirst
        · exact ⟨before, t, after, htail, (List.forall_mem_cons.mp hbefore).2, hfault⟩

/-- All builds cannot be worked out exactly if some target has a fault. -/
theorem exists_resolveAll_eq_error_iff {targets : List Target} :
    (∃ f, s.resolveAll ctx targets = .error f) ↔ ∃ t ∈ targets, ∃ f, s.Faults ctx t f := by
  constructor
  · rintro ⟨f, h⟩
    obtain ⟨before, t, after, rfl, -, hfault⟩ := resolveAll_eq_error_iff.mp h
    exact ⟨t, by simp, f, hfault⟩
  · rintro ⟨t, ht, f, hfault⟩
    cases hall : s.resolveAll ctx targets with
    | error e => exact ⟨e, rfl⟩
    | ok builds =>
      -- then the target would render
      obtain ⟨b, hb⟩ := exists_renders_of_forall₂ (resolveAll_eq_ok_iff.mp hall) t ht
      rw [← resolve_eq_ok_iff, resolve_eq_error_iff.mpr hfault] at hb
      cases hb

/-- **The matrix of a build.** Every pair of a system and an architecture is considered, in the
order of the systems and for each of them in that of the architectures, the one platform with
revisions once for each of them and every other once. Those whose key is left out are dropped. If
every remaining target renders, the builds are what they render to, one for each in their order;
otherwise the fault of the first that does not is told, and there is one exactly if the flags, the
directory or the output of a remaining target does not render. Nothing depends on what was dropped.

Unless a target has no name at all, the key by which it is dropped is the key of the artifact that
is built for it: wherever the build is selected from a catalog that holds the artifact, the artifact
is in the group of that key and in no other, and there is such a group exactly if the key is not
left out there. -/
theorem builds_expand (s : Settings) (ctx : Context) :
    let considered := (s.systems ×ˢ s.architectures).flatMap fun platform =>
      (if platform = ("linux", "arm") then s.revisions.map some else [none]).map
        (Target.mk platform.1 platform.2)
    let remaining := considered.filter fun t => t.key ∉ s.skip
    (∀ builds, s.builds ctx = .ok builds ↔ List.Forall₂ (s.Renders ctx) remaining builds) ∧
    (∀ f, s.builds ctx = .error f ↔ ∃ before t after, remaining = before ++ t :: after ∧
      (∀ u ∈ before, ∃ b, s.Renders ctx u b) ∧ s.Faults ctx t f) ∧
    ((∃ f, s.builds ctx = .error f) ↔
      ∃ t ∈ remaining, ∃ text ∈ [s.linkerFlags, directoryTemplate, s.output], ∃ e,
        (targetScope ctx t).render "build:go" text = .error e) ∧
    ∀ b : TargetBuild, b.target.os ≠ "" ∨ b.target.arch ≠ "" →
      (b.toArtifact s.id).key = b.target.key ∧
      ∀ (c : Catalog) (ids skip : List String), b.toArtifact s.id ∈ c.artifacts → s.id ∈ ids →
        (b.target.key ∈ (c.group ids skip).keys ↔ b.target.key ∉ skip) ∧
        ∀ key group, (c.group ids skip).get? key = some group →
          (b.toArtifact s.id ∈ group ↔ b.target.key = key) := by
  intro considered remaining
  -- the builds are worked out for what remains, and only for that
  have hbuilds : s.builds ctx = s.resolveAll ctx remaining := by
    rw [Settings.builds, targets_eq, combinations_eq]
  refine ⟨fun builds => ?_, fun f => ?_, ?_, fun b hnamed => ?_⟩
  · rw [hbuilds, resolveAll_eq_ok_iff]
  · rw [hbuilds, resolveAll_eq_error_iff]
  · rw [hbuilds, exists_resolveAll_eq_error_iff]
    exact exists_congr fun t => and_congr_right fun _ => exists_faults_iff
  · have hkey : (b.toArtifact s.id).key = b.target.key := Artifact.key_eq_of_named hnamed
    refine ⟨hkey, fun c ids skip ha hid => ⟨?_, fun key group hget => ?_⟩⟩
    · rw [Catalog.mem_keys_group]
      exact and_iff_left ⟨b.toArtifact s.id, ha, hid, hkey⟩
    · rw [Artifact.mem_group_iff ha hget, hkey]
      exact and_iff_right hid

/-- A build for a revision. -/
def revisedBuild : TargetBuild where
  target := { os := "linux", arch := "arm", armVersion := some 7 }
  linkerFlags := ""
  directory := ⟨"dist/demo-linux-armv7"⟩
  output := "demo"

/-- The combinations of a matrix with a revision that is not written and with one that is left out,
and the group in which an artifact for a revision is found. -/
theorem crossBuild_expands :
    crossBuild.builds withScript = .ok
      [⟨{ os := "linux", arch := "amd64" }, "", ⟨"dist/demo-linux-amd64"⟩, "demo"⟩,
        ⟨{ os := "linux", arch := "arm", armVersion := some 0 }, "", ⟨"dist/demo-linux-arm"⟩,
          "demo"⟩,
        revisedBuild,
        ⟨{ os := "windows", arch := "amd64" }, "", ⟨"dist/demo-windows-amd64"⟩, "demo"⟩] ∧
    (revisedBuild.target.os ≠ "" ∨ revisedBuild.target.arch ≠ "") ∧
    (revisedBuild.toArtifact "default").key = "linux-armv7" ∧
    "linux-armv7" ∈ (Catalog.group ⟨[revisedBuild.toArtifact "default"]⟩ ["default"]
      ["linux-arm"]).keys := by
  have hnamed : revisedBuild.target.os ≠ "" ∨ revisedBuild.target.arch ≠ "" := by decide
  obtain ⟨-, -, -, hkeys⟩ := builds_expand crossBuild withScript
  obtain ⟨hkey, hgroups⟩ := hkeys revisedBuild hnamed
  have hwritten : revisedBuild.target.key = "linux-armv7" := by decide +kernel
  have hgroup := hgroups ⟨[revisedBuild.toArtifact "default"]⟩ ["default"] ["linux-arm"]
    List.mem_cons_self List.mem_cons_self
  rw [hwritten] at hkey hgroup
  exact ⟨by decide +kernel, hnamed, hkey, hgroup.1.mpr (by decide)⟩

end Build.Go

end ReleasePipeline
