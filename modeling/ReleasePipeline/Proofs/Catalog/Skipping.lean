/-
Leaving out more targets.

A selection is made with a list of targets that are left out. Leaving out more of them is the same
as taking these out of the selection that was made before (`Catalog.group_eq_without`): no other
group is touched, since a group is put together from the artifacts of its own target only.

Taking targets out of a rectangle leaves a rectangle, whatever the selection was made from
(`TargetGroups.validate_without`). What every build has for every target it has for those that
remain, and targets that are alike in number stay alike. That the first target may be gone, with
which the others are compared, is of no account: the check asks in effect for any two
(`TargetGroups.Level`).
-/
import ReleasePipeline.Proofs.Catalog.Grouping
import ReleasePipeline.Proofs.Catalog.Rectangle

set_option autoImplicit false

namespace ReleasePipeline

namespace TargetGroups

/-! ## Taking targets out of a selection -/

/-- The selection without some of its targets. -/
def without (g : TargetGroups) (skip : List String) : TargetGroups where
  ids := g.ids
  groups :=
    ⟨g.groups.toList.filter fun row => row.1 ∉ skip,
      g.groups.ascending.sublist (List.filter_sublist.map Prod.fst)⟩

variable {g : TargetGroups} {skip : List String} {id key : String}

/-- Rows go, and what remains stays in its order. -/
theorem toList_without : (g.without skip).toList = g.toList.filter fun row => row.1 ∉ skip := rfl

/-- The groups that remain are as they were. -/
theorem get?_without :
    (g.without skip).get? key = if key ∈ skip then none else g.get? key := by
  ext group
  rw [get?_eq_some_iff_mem, toList_without, List.mem_filter, decide_eq_true_eq]
  by_cases hskip : key ∈ skip
  · simp [hskip]
  · simp [hskip, get?_eq_some_iff_mem]

/-- The targets that remain are those that are not taken out. -/
theorem mem_keys_without : key ∈ (g.without skip).keys ↔ key ∈ g.keys ∧ key ∉ skip := by
  simp only [mem_keys_iff, toList_without, List.mem_filter, decide_eq_true_eq,
    exists_and_right]

/-! ## Rectangles -/

/-- A target that remains has an artifact of a build if it had one before. -/
theorem has_without (hskip : key ∉ skip) : (g.without skip).Has id key ↔ g.Has id key := by
  rw [Has, Has, get?_without, if_neg hskip]

/-- And it has as many artifacts as before. -/
theorem count_without (hskip : key ∉ skip) : (g.without skip).count key = g.count key := by
  rw [count, count, get?_without, if_neg hskip]

/-- What is left of a rectangle is a rectangle. -/
theorem validate_without (hvalid : g.validate = .ok ()) (skip : List String) :
    (g.without skip).validate = .ok () := by
  obtain ⟨hcovered, hlevel⟩ := (validate_eq_ok_iff g).mp hvalid
  apply (validate_eq_ok_iff _).mpr
  constructor
  · intro id hid key hkey
    obtain ⟨hkey, hskip⟩ := mem_keys_without.mp hkey
    exact (has_without hskip).mpr (hcovered id hid key hkey)
  · intro key hkey key' hkey'
    obtain ⟨hkey, hskip⟩ := mem_keys_without.mp hkey
    obtain ⟨hkey', hskip'⟩ := mem_keys_without.mp hkey'
    rw [count_without hskip, count_without hskip']
    exact hlevel key hkey key' hkey'

end TargetGroups

namespace Catalog

variable {c : Catalog} {ids skip more : List String}

/-- To leave out more targets is to take these out of the selection. -/
theorem group_eq_without (hmore : skip ⊆ more) :
    c.group ids more = (c.group ids skip).without more := by
  have hgroups : (c.group ids more).groups = ((c.group ids skip).without more).groups := by
    refine Table.ext fun key => ?_
    have hleft : (c.group ids more).groups.find? key = _ := get?_group
    have hright : ((c.group ids skip).without more).groups.find? key = _ :=
      TargetGroups.get?_without
    rw [hleft, hright, get?_group]
    -- a target that remains was not left out before either
    by_cases hkey : key ∈ more
    · simp only [hkey, true_or, if_true]
    · have hskip : key ∉ skip := fun h => hkey (hmore h)
      simp only [hkey, hskip, false_or, if_false]
  exact congrArg (TargetGroups.mk ids) hgroups

/-- **Leaving out more targets never breaks a selection.** Whatever is left out in addition, the
selection is the one before without these targets: its rows are the rows before whose target is not
left out, and every other group is as it was. If the selection before was a rectangle, so is this
one. -/
theorem group_leaving_out_more (c : Catalog) (ids skip more : List String) (hmore : skip ⊆ more) :
    (c.group ids more).ids = (c.group ids skip).ids ∧
    (c.group ids more).toList = (c.group ids skip).toList.filter (fun row => row.1 ∉ more) ∧
    (∀ key, (c.group ids more).get? key =
      if key ∈ more then none else (c.group ids skip).get? key) ∧
    ((c.group ids skip).validate = .ok () → (c.group ids more).validate = .ok ()) := by
  rw [group_eq_without hmore]
  exact ⟨rfl, TargetGroups.toList_without, fun _ => TargetGroups.get?_without,
    fun hvalid => TargetGroups.validate_without hvalid more⟩

/-- Two builds for two targets, and one of them for a third target as well. -/
def serverAndClient : Catalog where
  artifacts :=
    [⟨"server", "server", ⟨"dist/server-darwin"⟩, { os := "darwin", arch := "amd64" }, .raw⟩,
      ⟨"server", "server", ⟨"dist/server-arm"⟩, { os := "linux", arch := "arm" }, .raw⟩,
      ⟨"client", "client", ⟨"dist/client-darwin"⟩, { os := "darwin", arch := "amd64" }, .raw⟩,
      ⟨"server", "server", ⟨"dist/server-linux"⟩, { os := "linux", arch := "amd64" }, .raw⟩,
      ⟨"client", "client", ⟨"dist/client-linux"⟩, { os := "linux", arch := "amd64" }, .raw⟩]

/-- Without the third target the two builds are a rectangle, and they are still one when the target
is left out, too, with which the others are compared. -/
theorem rectangle_without_first_target :
    ["linux-arm"] ⊆ ["darwin-amd64", "linux-arm"] ∧
    (serverAndClient.group ["server", "client"] ["linux-arm"]).keys
      = ["darwin-amd64", "linux-amd64"] ∧
    (serverAndClient.group ["server", "client"] ["linux-arm"]).validate = .ok () ∧
    (serverAndClient.group ["server", "client"] ["darwin-amd64", "linux-arm"]).validate
      = .ok () := by
  have hmore : ["linux-arm"] ⊆ ["darwin-amd64", "linux-arm"] := by decide
  have hvalid : (serverAndClient.group ["server", "client"] ["linux-arm"]).validate = .ok () := by
    decide +kernel
  obtain ⟨-, -, -, hkept⟩ :=
    group_leaving_out_more serverAndClient ["server", "client"] _ _ hmore
  exact ⟨hmore, by decide +kernel, hvalid, hkept hvalid⟩

end Catalog

end ReleasePipeline
