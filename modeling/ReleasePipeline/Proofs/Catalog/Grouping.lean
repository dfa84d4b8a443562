/-
What a selection of artifacts holds.

A selection is made by putting one artifact after the other into a table. Here it is described
by the catalog alone: the artifacts of a target are those of each requested build in turn, in
the order of production (`Catalog.ofTarget`). One fold over all candidates carries this
(`find?_foldl_groupOne`): whatever the table was before, each target gets what it has among
them at the end of its row, and a target without any gets no row.

The order of the targets is not made by the fold but by the table.
-/
import Mathlib.Data.List.Basic
import ReleasePipeline.Catalog
import ReleasePipeline.Proofs.Sorted
import ReleasePipeline.Proofs.Text.ByteOrder

set_option autoImplicit false

namespace ReleasePipeline

namespace Table

/-- The rows of a table whose look-up is known. -/
theorem toList_eq_map_keys {α β : Type} [KeyOrder α] {t : Table α β} {f : α → β}
    (h : ∀ k ∈ t.keys, t.find? k = some (f k)) : t.toList = t.keys.map fun k => (k, f k) := by
  have hrow : ∀ row ∈ t.toList, row = (row.1, f row.1) := by
    rintro ⟨k, v⟩ hm
    have hv := h k (List.mem_map_of_mem hm)
    rw [find?_eq_some_iff_mem.mpr hm] at hv
    rw [Option.some.inj hv]
  rw [keys, List.map_map]
  calc t.toList = t.toList.map id := (List.map_id _).symm
    _ = t.toList.map ((fun k => (k, f k)) ∘ Prod.fst) := List.map_congr_left hrow

end Table

namespace Catalog

variable (c : Catalog) (ids skip : List String)

/-! ## The artifacts of a target -/

/-- The artifacts that the given builds have for a target: build after build as they were asked
for, and those of one build in the order of production. -/
def ofTarget (key : String) : List Artifact :=
  ids.flatMap fun id => c.artifacts.filter fun a => a.id = id ∧ a.key = key

/-- All artifacts of the given builds, which grouping goes through. -/
def candidates : List Artifact := ids.flatMap c.byId

variable {c ids skip} {key : String} {a : Artifact}

/-- An artifact belongs to a target by its key and its build, however often the build was asked for.
-/
theorem mem_ofTarget : a ∈ c.ofTarget ids key ↔ a ∈ c.artifacts ∧ a.id ∈ ids ∧ a.key = key := by
  simp only [ofTarget, List.mem_flatMap, List.mem_filter, decide_eq_true_eq]
  constructor
  · rintro ⟨id, hid, ha, rfl, hkey⟩
    exact ⟨ha, hid, hkey⟩
  · rintro ⟨ha, hid, hkey⟩
    exact ⟨a.id, hid, ha, rfl, hkey⟩

/-- A target has artifacts if some requested build made one for it. -/
theorem ofTarget_ne_nil_iff :
    c.ofTarget ids key ≠ [] ↔ ∃ a ∈ c.artifacts, a.id ∈ ids ∧ a.key = key := by
  constructor
  · intro hne
    obtain ⟨a, ha⟩ := List.exists_mem_of_ne_nil _ hne
    exact ⟨a, mem_ofTarget.mp ha⟩
  · rintro ⟨a, ha⟩
    exact List.ne_nil_of_mem (mem_ofTarget.mpr ha)

/-- The artifacts of a target are the candidates with its key. -/
theorem filter_candidates : (c.candidates ids).filter (·.key = key) = c.ofTarget ids key := by
  rw [candidates, ofTarget, List.filter_flatMap]
  refine List.flatMap_congr fun id _ => ?_
  rw [byId, List.filter_filter]
  refine List.filter_congr fun a _ => ?_
  rw [Bool.decide_and, Bool.and_comm]
  rfl

/-! ## Grouping

The fold of `groupOne` goes on with whatever table it was given, so the induction is on the
artifacts with the table left open. It is enough to follow one key: what is put in for another one
is not seen by its look-up (`Table.find?_upsert`). -/

/-- Putting artifacts into groups one after the other leaves each target with what it had and
then what it has among them; of the targets that are left out nothing is put in. -/
theorem find?_foldl_groupOne (xs : List Artifact) (groups : Table String (List Artifact)) :
    (xs.foldl (groupOne skip) groups).find? key =
      if key ∈ skip ∨ xs.filter (·.key = key) = [] then groups.find? key
      else some ((groups.find? key).getD [] ++ xs.filter (·.key = key)) := by
  induction xs generalizing groups with
  | nil => simp only [List.foldl_nil, List.filter_nil, or_true, if_true]
  | cons a xs ih =>
    rw [List.foldl_cons, ih, groupOne]
    -- what is left out changes nothing for any key, and it matters only if it has this very key
    by_cases hskip : skip.contains a.key = true
    · rw [if_pos hskip]
      by_cases hkey : a.key = key
      · have hin : key ∈ skip := by
          rw [← hkey]
          exact List.contains_iff_mem.mp hskip
        simp only [hin, true_or, if_true]
      · simp only [hkey, decide_false, Bool.false_eq_true, not_false_eq_true,
          List.filter_cons_of_neg]
    · rw [if_neg hskip, Table.find?_upsert]
      by_cases hkey : a.key = key
      · subst hkey
        have hnot : a.key ∉ skip := fun hin => hskip (List.contains_iff_mem.mpr hin)
        simp only [hnot, false_or, if_true, decide_true, List.filter_cons_of_pos, reduceCtorEq,
          if_false]
        -- the row that was just begun is the last word if nothing follows for its key
        by_cases hnil : xs.filter (·.key = a.key) = []
        · rw [if_pos hnil, hnil]
        · rw [if_neg hnil, Option.getD_some, List.append_assoc]
          rfl
      · simp only [Ne.symm hkey, if_false, hkey, decide_false, Bool.false_eq_true,
          not_false_eq_true, List.filter_cons_of_neg]

/-- The group of a target: there is one unless the target is left out or nothing is found. -/
theorem get?_group : (c.group ids skip).get? key =
    if key ∈ skip ∨ c.ofTarget ids key = [] then none else some (c.ofTarget ids key) := by
  have hfold : (c.group ids skip).groups = (c.candidates ids).foldl (groupOne skip) .empty :=
    List.foldl_flatMap.symm
  rw [TargetGroups.get?, hfold, find?_foldl_groupOne, filter_candidates, Table.find?_empty]
  rfl

/-- A target is listed if and only if it has a group. -/
theorem mem_keys_group : key ∈ (c.group ids skip).keys ↔
    key ∉ skip ∧ ∃ a ∈ c.artifacts, a.id ∈ ids ∧ a.key = key := by
  have hkeys : key ∈ (c.group ids skip).keys ↔ ∃ group, (c.group ids skip).get? key = some group :=
    Table.mem_keys_iff
  rw [hkeys, get?_group, ← ofTarget_ne_nil_iff]
  by_cases h : key ∈ skip ∨ c.ofTarget ids key = []
  · rw [if_pos h]
    refine ⟨nofun, fun ⟨hskip, hne⟩ => ?_⟩
    exact absurd h (not_or.mpr ⟨hskip, hne⟩)
  · rw [if_neg h]
    exact ⟨fun _ => not_or.mp h, fun _ => ⟨_, rfl⟩⟩

/-- The group of a listed target is made of all that belongs to it. -/
theorem get?_group_of_mem (h : key ∈ (c.group ids skip).keys) :
    (c.group ids skip).get? key = some (c.ofTarget ids key) := by
  obtain ⟨hskip, ha⟩ := mem_keys_group.mp h
  rw [get?_group, if_neg (not_or.mpr ⟨hskip, ofTarget_ne_nil_iff.mpr ha⟩)]

/-- The rows of a selection. -/
theorem toList_group : (c.group ids skip).toList =
    (c.group ids skip).keys.map fun key => (key, c.ofTarget ids key) :=
  Table.toList_eq_map_keys fun _ => get?_group_of_mem

/-- **Grouping is exact and loses nothing.** A target has a group exactly when it is not left out
and some artifact of a requested build is for it; the targets are listed in strictly ascending
order of their bytes. The group of a target holds the artifacts of each requested build in
turn, in the order of production, so no group is empty; the rows are these groups in the order
of the targets, and listing all artifacts goes through them in that order. -/
theorem group_exact (c : Catalog) (ids skip : List String) :
    (∀ key, key ∈ (c.group ids skip).keys ↔
      key ∉ skip ∧ ∃ a ∈ c.artifacts, a.id ∈ ids ∧ a.key = key) ∧
    ((c.group ids skip).keys.map Text.bytes).Pairwise (· < ·) ∧
    (∀ key, (c.group ids skip).get? key =
      if key ∈ (c.group ids skip).keys
      then some (ids.flatMap fun id => c.artifacts.filter fun a => a.id = id ∧ a.key = key)
      else none) ∧
    (∀ key group, (c.group ids skip).get? key = some group → group ≠ []) ∧
    (c.group ids skip).toList = (c.group ids skip).keys.map (fun key =>
      (key, ids.flatMap fun id => c.artifacts.filter fun a => a.id = id ∧ a.key = key)) ∧
    (c.group ids skip).artifacts = (c.group ids skip).keys.flatMap fun key =>
      ids.flatMap fun id => c.artifacts.filter fun a => a.id = id ∧ a.key = key := by
  refine ⟨fun key => mem_keys_group, ?_, fun key => ?_, fun key group hget => ?_, toList_group, ?_⟩
  -- a table keeps its rows in order, and the order of keys is that of their bytes
  · have hascending : (c.group ids skip).keys.Pairwise (· < ·) :=
      (c.group ids skip).groups.ascending
    rw [List.pairwise_map]
    exact hascending.imp fun h => Text.lt_iff_bytes_lt.mp h
  · by_cases h : key ∈ (c.group ids skip).keys
    · rw [if_pos h]
      exact get?_group_of_mem h
    · rw [if_neg h, get?_group, if_pos]
      rw [mem_keys_group, ← ofTarget_ne_nil_iff] at h
      tauto
  · rw [get?_group] at hget
    split at hget
    · cases hget
    next h =>
      rw [← Option.some.inj hget]
      exact (not_or.mp h).2
  · rw [TargetGroups.artifacts, Table.values]
    have hrows : (c.group ids skip).groups.toList =
        (c.group ids skip).keys.map fun key => (key, c.ofTarget ids key) := toList_group
    rw [hrows, List.map_map, List.flatMap]
    rfl

end Catalog

end ReleasePipeline
