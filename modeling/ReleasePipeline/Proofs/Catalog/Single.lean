/-
Selections in which every target has one artifact.

A module that makes one artifact for each target, all under a build name that was not used before,
adds to the catalog what is selected by that name. If the artifacts have keys of their own, then
grouping does nothing but put them in the order of their keys: the rows of the selection are the
artifacts, one by one, without those that are left out (`perm_toList_group_addAll`). Where the
artifacts were added in that order already, the rows are in the order of the artifacts
(`toList_group_addAll`).

Such a selection is a rectangle (`validate_of_single`).
-/
import ReleasePipeline.Proofs.Catalog.Grouping
import ReleasePipeline.Proofs.Catalog.Rectangle

set_option autoImplicit false

namespace ReleasePipeline

namespace Catalog

variable {c : Catalog} {added : List Artifact} {id : String}

/-! ## Grouping what was added -/

/-- Of the artifacts that were added, those of a target. -/
theorem ofTarget_addAll (hnew : ∀ a ∈ c.artifacts, a.id ≠ id) (hid : ∀ a ∈ added, a.id = id)
    (key : String) : (c.addAll added).ofTarget [id] key = added.filter (·.key = key) := by
  -- the name was not used before, so nothing old is found by it
  have hold : c.artifacts.filter (fun a => a.id = id ∧ a.key = key) = [] :=
    List.filter_eq_nil_iff.mpr fun a ha hboth => hnew a ha (of_decide_eq_true hboth).1
  have hall : added.filter (fun a => a.id = id ∧ a.key = key) = added.filter (·.key = key) :=
    List.filter_congr fun a ha => by rw [hid a ha]; simp only [true_and]
  rw [ofTarget, List.flatMap_singleton, artifacts_addAll, List.filter_append, hold, hall,
    List.nil_append]

/-- There are groups for the targets of what was added, without those that are left out. -/
theorem mem_keys_group_addAll (hnew : ∀ a ∈ c.artifacts, a.id ≠ id) (hid : ∀ a ∈ added, a.id = id)
    {skip : List String} {key : String} :
    key ∈ ((c.addAll added).group [id] skip).keys
      ↔ key ∈ (added.filter (·.key ∉ skip)).map Artifact.key := by
  rw [mem_keys_group, ← ofTarget_ne_nil_iff, ofTarget_addAll hnew hid, List.mem_map]
  constructor
  · rintro ⟨hskip, hne⟩
    obtain ⟨a, ha⟩ := List.exists_mem_of_ne_nil _ hne
    obtain ⟨hmem, hkey⟩ := List.mem_filter.mp ha
    obtain rfl := of_decide_eq_true hkey
    exact ⟨a, List.mem_filter.mpr ⟨hmem, decide_eq_true hskip⟩, rfl⟩
  · rintro ⟨a, ha, rfl⟩
    obtain ⟨ha, hskip⟩ := List.mem_filter.mp ha
    exact ⟨of_decide_eq_true hskip,
      List.ne_nil_of_mem (List.mem_filter.mpr ⟨ha, decide_eq_true rfl⟩)⟩

/-- Where no two artifacts are for one target, the target of an artifact has no other. -/
theorem filter_key_eq_singleton (hdistinct : (added.map Artifact.key).Nodup) {a : Artifact}
    (ha : a ∈ added) : added.filter (·.key = a.key) = [a] := by
  induction added with
  | nil => cases ha
  | cons first rest ih =>
    rw [List.map_cons, List.nodup_cons] at hdistinct
    obtain ⟨hfirst, hrest⟩ := hdistinct
    -- it is the first one, and then no other has its key, or it is among the rest
    rcases List.mem_cons.mp ha with rfl | ha
    · have hnone : rest.filter (·.key = a.key) = [] :=
        List.filter_eq_nil_iff.mpr fun b hb hkey =>
          hfirst (List.mem_map.mpr ⟨b, hb, of_decide_eq_true hkey⟩)
      have hself : decide (a.key = a.key) = true := decide_eq_true rfl
      rw [List.filter_cons, if_pos hself, hnone]
    · have hne : first.key ≠ a.key := fun hkey => hfirst (List.mem_map.mpr ⟨a, ha, hkey.symm⟩)
      have hother : ¬decide (first.key = a.key) = true := fun h => hne (of_decide_eq_true h)
      rw [List.filter_cons, if_neg hother, ih hrest ha]

/-- If the artifacts that were added are the only ones of their build, and have keys of their own,
they are grouped one by one. -/
theorem perm_toList_group_addAll (hnew : ∀ a ∈ c.artifacts, a.id ≠ id)
    (hid : ∀ a ∈ added, a.id = id) (hdistinct : (added.map Artifact.key).Nodup)
    (skip : List String) :
    ((c.addAll added).group [id] skip).toList.Perm
      ((added.filter (·.key ∉ skip)).map fun a => (a.key, [a])) := by
  -- keys of a selection differ, so to have the same keys is to be a permutation
  have hkeys : ((c.addAll added).group [id] skip).keys.Perm
      ((added.filter (·.key ∉ skip)).map Artifact.key) :=
    (List.perm_ext_iff_of_nodup (nodup_of_ascending (TargetGroups.ascending_keys _))
      (hdistinct.sublist (List.filter_sublist.map _))).mpr
      fun _ => mem_keys_group_addAll hnew hid
  -- a row is known by its key
  have hgroups : ((c.addAll added).group [id] skip).toList
      = ((c.addAll added).group [id] skip).keys.map
        fun key => (key, added.filter (·.key = key)) := by
    rw [toList_group]
    exact List.map_congr_left fun key _ => by rw [ofTarget_addAll hnew hid]
  have hsingle : (added.filter (·.key ∉ skip)).map (fun a => (a.key, [a]))
      = ((added.filter (·.key ∉ skip)).map Artifact.key).map
        fun key => (key, added.filter (·.key = key)) := by
    rw [List.map_map]
    refine List.map_congr_left fun a ha => ?_
    rw [Function.comp_apply, filter_key_eq_singleton hdistinct (List.mem_filter.mp ha).1]
  rw [hgroups, hsingle]
  exact hkeys.map _

/-- If the keys ascend, they are grouped in their order. -/
theorem toList_group_addAll (hnew : ∀ a ∈ c.artifacts, a.id ≠ id)
    (hid : ∀ a ∈ added, a.id = id) (hascending : (added.map Artifact.key).Pairwise (· < ·))
    (skip : List String) :
    ((c.addAll added).group [id] skip).toList
      = (added.filter (·.key ∉ skip)).map fun a => (a.key, [a]) := by
  have hperm := perm_toList_group_addAll hnew hid (nodup_of_ascending hascending) skip
  have hrows := List.pairwise_map.mp ((c.addAll added).group [id] skip).ascending_keys
  -- two lists with the same rows, both in the order of their keys, are the same list
  refine eq_of_ascending Prod.fst hrows (List.pairwise_map.mpr ?_) fun _ => hperm.mem_iff
  exact (List.pairwise_map.mp hascending).sublist List.filter_sublist

end Catalog

/-! ## Rectangles -/

/-- A selection of one build in which every target has one artifact is a rectangle. -/
theorem TargetGroups.validate_of_single {g : TargetGroups} {id : String} (hids : g.ids = [id])
    (h : ∀ key group, (key, group) ∈ g.toList → ∃ a, group = [a] ∧ a.id = id) :
    g.validate = .ok () := by
  rw [validate_eq_ok_iff, hids]
  have hcount (key : String) (hkey : key ∈ g.keys) : g.count key = 1 := by
    obtain ⟨group, hrow⟩ := mem_keys_iff.mp hkey
    obtain ⟨a, rfl, -⟩ := h key group hrow
    exact count_of_mem hrow
  refine ⟨List.forall_mem_singleton.mpr fun key hkey => ?_, fun key hkey key' hkey' => ?_⟩
  · obtain ⟨group, hrow⟩ := mem_keys_iff.mp hkey
    obtain ⟨a, rfl, hid⟩ := h key group hrow
    rw [has_iff_of_mem hrow, covers_iff]
    exact ⟨a, List.mem_singleton_self a, hid⟩
  · rw [hcount key hkey, hcount key' hkey']

/-- So is what was added, if the artifacts have keys of their own. -/
theorem Catalog.validate_group_addAll {c : Catalog} {added : List Artifact} {id : String}
    (hnew : ∀ a ∈ c.artifacts, a.id ≠ id) (hid : ∀ a ∈ added, a.id = id)
    (hdistinct : (added.map Artifact.key).Nodup) (skip : List String) :
    ((c.addAll added).group [id] skip).validate = .ok () := by
  refine TargetGroups.validate_of_single rfl fun key group hrow => ?_
  rw [(perm_toList_group_addAll hnew hid hdistinct skip).mem_iff] at hrow
  obtain ⟨a, ha, hrow⟩ := List.mem_map.mp hrow
  cases hrow
  exact ⟨a, rfl, hid a (List.mem_filter.mp ha).1⟩

end ReleasePipeline
