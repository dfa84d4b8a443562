/-
What the check of a selection accepts, and what it says of the others.

The check looks at rows of a table; here it is described by what the selection holds: whether
there is an artifact of a build for a target (`Has`), and how many artifacts a target has
(`count`). Both are read off the look-up, so nothing below depends on how the rows lie, except
where the order of the targets is itself what is claimed.

The two passes of the check are settled one after the other, coverage by
`coverageError?_eq_none_iff` with `coverageError?_of_lacks`, sizes by `sizeError?_eq_none_iff`
with `sizeError?_of_uneven`, and put together in `validate_group`.
-/
import ReleasePipeline.Catalog.Rectangular
import ReleasePipeline.Proofs.Sorted

set_option autoImplicit false

namespace ReleasePipeline

namespace TargetGroups

/-! ## What a selection holds

A row of the table says both things at once, who has an artifact for its target and how many there
are. As keys of a table differ, the row of a target is the only one, so either is read off it. -/

/-- The selection holds an artifact of the build for the target. -/
def Has (g : TargetGroups) (id key : String) : Prop :=
  ∃ group, g.get? key = some group ∧ ∃ a ∈ group, a.id = id

/-- The number of artifacts of a target. -/
def count (g : TargetGroups) (key : String) : Nat := ((g.get? key).getD []).length

/-- There is an artifact of the build for every target. -/
def HasAll (g : TargetGroups) (id : String) : Prop := ∀ key ∈ g.keys, g.Has id key

/-- All targets have the same number of artifacts. -/
def Level (g : TargetGroups) : Prop :=
  ∀ key ∈ g.keys, ∀ key' ∈ g.keys, g.count key = g.count key'

variable {g : TargetGroups} {id key : String} {group : List Artifact}

/-- The group of a target is the one in its row. -/
theorem get?_eq_some_iff_mem : g.get? key = some group ↔ (key, group) ∈ g.toList :=
  Table.find?_eq_some_iff_mem

/-- A target is listed if it has a row. -/
theorem mem_keys_iff : key ∈ g.keys ↔ ∃ group, (key, group) ∈ g.toList := by
  rw [keys, Table.mem_keys_iff]
  exact exists_congr fun _ => get?_eq_some_iff_mem

/-- A group covers a build if it has one of its artifacts. -/
theorem covers_iff : covers id group = true ↔ ∃ a ∈ group, a.id = id := by
  simp only [covers, List.any_eq_true, beq_iff_eq]

/-- The row of a target decides whether the selection has an artifact for it. -/
theorem has_iff_of_mem (h : (key, group) ∈ g.toList) : g.Has id key ↔ covers id group = true := by
  rw [covers_iff, Has, get?_eq_some_iff_mem.mpr h]
  simp only [Option.some.injEq, exists_eq_left']

/-- The row of a target decides how many artifacts it has. -/
theorem count_of_mem (h : (key, group) ∈ g.toList) : g.count key = group.length := by
  rw [count, get?_eq_some_iff_mem.mpr h]
  rfl

/-- A build without an artifact for any target has none in the selection. -/
theorem forall_not_has_iff :
    (∀ key ∈ g.keys, ¬ g.Has id key) ↔ ∀ a ∈ g.artifacts, a.id ≠ id := by
  -- all artifacts are those of the rows, and a row belongs to one target
  have hrow : ∀ a, a ∈ g.artifacts ↔ ∃ key group, (key, group) ∈ g.toList ∧ a ∈ group := by
    intro a
    simp only [artifacts, Table.values, toList, List.mem_flatten, List.mem_map, Prod.exists]
    exact ⟨fun ⟨_, ⟨key, group, hm, rfl⟩, ha⟩ => ⟨key, group, hm, ha⟩,
      fun ⟨key, group, hm, ha⟩ => ⟨group, ⟨key, group, hm, rfl⟩, ha⟩⟩
  constructor
  · intro h a ha heq
    obtain ⟨key, group, hm, ha⟩ := (hrow a).mp ha
    refine h key (mem_keys_iff.mpr ⟨group, hm⟩) ?_
    exact ⟨group, get?_eq_some_iff_mem.mpr hm, a, ha, heq⟩
  · rintro h key - ⟨group, hget, a, ha, heq⟩
    exact h a ((hrow a).mpr ⟨key, group, get?_eq_some_iff_mem.mp hget, ha⟩) heq

/-! ## Coverage

The check reports two faults that look alike to a user: that a build has nothing for some of the
targets, and that it has nothing at all, which mostly means that its name is misspelled. It tells
them apart by counting what is missing (`length_missing_eq_size_iff`). -/

/-- The targets that a build misses are those for which it has no artifact. -/
theorem mem_missing_iff : key ∈ g.missing id ↔ key ∈ g.keys ∧ ¬ g.Has id key := by
  rw [missing, List.mem_map, mem_keys_iff]
  constructor
  · rintro ⟨⟨k, group⟩, hm, rfl⟩
    obtain ⟨hm, hnot⟩ := List.mem_filter.mp hm
    refine ⟨⟨group, hm⟩, ?_⟩
    rw [has_iff_of_mem hm]
    simpa only [Bool.not_eq_true', Bool.not_eq_true] using hnot
  · rintro ⟨⟨group, hm⟩, hnot⟩
    rw [has_iff_of_mem hm, Bool.not_eq_true] at hnot
    exact ⟨(key, group), List.mem_filter.mpr ⟨hm, by simp only [hnot, Bool.not_false]⟩, rfl⟩

/-- The targets of a selection ascend. -/
theorem ascending_keys (g : TargetGroups) : g.keys.Pairwise (· < ·) := g.groups.ascending

/-- The missing targets are listed in ascending order. -/
theorem ascending_missing (g : TargetGroups) (id : String) :
    (g.missing id).Pairwise (· < ·) :=
  g.ascending_keys.sublist (List.filter_sublist.map Prod.fst)

/-- A build misses as many targets as there are only if it has no artifact for any. -/
theorem length_missing_eq_size_iff :
    (g.missing id).length = g.size ↔ ∀ key ∈ g.keys, ¬ g.Has id key := by
  rw [missing, List.length_map, size, Table.size, toList, List.length_filter_eq_length_iff]
  constructor
  · intro h key hkey
    obtain ⟨group, hm⟩ := mem_keys_iff.mp hkey
    have hnot := h _ hm
    rw [has_iff_of_mem hm]
    simpa only [Bool.not_eq_true', Bool.not_eq_true] using hnot
  · rintro h ⟨key, group⟩ hm
    have hnot := h key (mem_keys_iff.mpr ⟨group, hm⟩)
    rw [has_iff_of_mem hm, Bool.not_eq_true] at hnot
    simp only [hnot, Bool.not_false]

/-- A build has no fault exactly when it has an artifact for every target. -/
theorem coverageError?_eq_none_iff : g.coverageError? id = none ↔ g.HasAll id := by
  have hnil : g.missing id = [] ↔ g.HasAll id := by
    rw [List.eq_nil_iff_forall_not_mem]
    refine forall_congr' fun key => ?_
    rw [mem_missing_iff, not_and, Classical.not_not]
  rw [← hnil, coverageError?]
  cases hm : g.missing id with
  | nil => exact ⟨fun _ => rfl, fun _ => rfl⟩
  | cons key rest =>
    -- whichever of the two faults it is, there is one
    refine ⟨fun h => ?_, nofun⟩
    rw [if_neg (by simp only [List.isEmpty_cons, Bool.false_eq_true, not_false_eq_true])] at h
    split at h <;> cases h

/-- What is said of a build that has no artifact for some target. -/
theorem coverageError?_of_lacks (h : ∃ key ∈ g.keys, ¬ g.Has id key) :
    ((∀ key ∈ g.keys, ¬ g.Has id key) → g.coverageError? id = some (.noTargets g.keys)) ∧
    ((∃ key ∈ g.keys, g.Has id key) →
      g.coverageError? id = some (.missingTargets id (g.missing id))) := by
  obtain ⟨key, hkey, hlacks⟩ := h
  have hne : ¬ (g.missing id).isEmpty = true := by
    rw [List.isEmpty_iff]
    exact List.ne_nil_of_mem (mem_missing_iff.mpr ⟨hkey, hlacks⟩)
  rw [coverageError?, if_neg hne]
  constructor
  · intro hnone
    rw [if_pos (length_missing_eq_size_iff.mpr hnone)]
  · rintro ⟨key', hkey', hhas⟩
    rw [if_neg]
    -- counting all targets as missing is to have an artifact for none
    intro hall
    exact length_missing_eq_size_iff.mp hall key' hkey' hhas

/-! ## Sizes

The check compares every target with the first one. That is enough to see whether all are alike, but
it singles out two targets: which ones they are is said by the order of the keys. -/

/-- A smaller target is listed before. -/
theorem mem_before_of_lt {xs ys : List (String × List Artifact)} {row : String × List Artifact}
    (h : g.toList = xs ++ row :: ys) (hm : (key, group) ∈ g.toList) (hlt : key < row.1) :
    (key, group) ∈ xs := by
  -- the keys of the rows ascend, so one that is smaller cannot come later
  have hasc := g.groups.ascending
  rw [show g.groups.toList = xs ++ row :: ys from h, List.map_append, List.pairwise_append,
    List.map_cons, List.pairwise_cons] at hasc
  rw [h] at hm
  rcases List.mem_append.mp hm with hm | hm
  · exact hm
  rcases List.mem_cons.mp hm with rfl | hm
  · exact absurd hlt (KeyOrder.irrefl _)
  · have hgt : row.1 < key := hasc.2.1.1 key (List.mem_map_of_mem hm)
    exact absurd (KeyOrder.trans hgt hlt) (KeyOrder.irrefl _)

/-- There is no fault of size exactly when all targets have the same number of artifacts. -/
theorem sizeError?_eq_none_iff : g.sizeError? = none ↔ g.Level := by
  rw [sizeError?]
  cases hrows : g.toList with
  | nil =>
    refine ⟨fun _ key hkey => ?_, fun _ => rfl⟩
    obtain ⟨group, hm⟩ := mem_keys_iff.mp hkey
    rw [hrows] at hm
    cases hm
  | cons row rest =>
    obtain ⟨reference, first⟩ := row
    have hfirst : g.count reference = first.length :=
      count_of_mem (by rw [hrows]; exact List.mem_cons_self)
    dsimp only
    rw [Option.map_eq_none_iff, List.find?_eq_none]
    constructor
    · intro h
      -- every target is compared with the first one
      have hall : ∀ key ∈ g.keys, g.count key = first.length := by
        intro key hkey
        obtain ⟨group, hm⟩ := mem_keys_iff.mp hkey
        rw [count_of_mem hm]
        rw [hrows] at hm
        rcases List.mem_cons.mp hm with heq | hm
        · cases heq
          rfl
        · simpa only [bne_iff_ne, ne_eq, Classical.not_not] using h _ hm
      intro key hkey key' hkey'
      rw [hall key hkey, hall key' hkey']
    · rintro h ⟨key, group⟩ hm
      have hmem : (key, group) ∈ g.toList := by
        rw [hrows]
        exact List.mem_cons_of_mem _ hm
      have hreference : reference ∈ g.keys :=
        mem_keys_iff.mpr ⟨first, by rw [hrows]; exact List.mem_cons_self⟩
      have heq := h key (mem_keys_iff.mpr ⟨group, hmem⟩) reference hreference
      rw [count_of_mem hmem, hfirst] at heq
      simp only [heq, bne_self_eq_false, Bool.false_eq_true, not_false_eq_true]

/-- What is said of targets that do not all have the same number of artifacts: the least
target is what the others are compared with, and the least that differs from it is named. -/
theorem sizeError?_of_uneven (h : ¬ g.Level) :
    ∃ reference ∈ g.keys, ∃ target ∈ g.keys,
      (∀ key ∈ g.keys, ¬ key < reference) ∧ g.count target ≠ g.count reference ∧
      (∀ key ∈ g.keys, g.count key ≠ g.count reference → ¬ key < target) ∧
      g.sizeError? =
        some (.unevenTargets target (g.count target) reference (g.count reference)) := by
  have hsome : g.sizeError? ≠ none := fun hnone => h (sizeError?_eq_none_iff.mp hnone)
  rw [sizeError?] at hsome ⊢
  cases hrows : g.toList with
  | nil =>
    rw [hrows] at hsome
    exact absurd rfl hsome
  | cons row rest =>
    obtain ⟨reference, first⟩ := row
    rw [hrows] at hsome
    dsimp only at hsome ⊢
    have hfirst : g.toList = [] ++ (reference, first) :: rest := hrows
    have hmem : (reference, first) ∈ g.toList := by
      rw [hrows]
      exact List.mem_cons_self
    have hreference : g.count reference = first.length := count_of_mem hmem
    -- the first of the later targets whose number differs
    obtain ⟨e, he⟩ := Option.ne_none_iff_exists'.mp hsome
    obtain ⟨⟨target, group⟩, hfound, -⟩ := Option.map_eq_some_iff.mp he
    obtain ⟨hdiffers, before, after, rfl, hbefore⟩ := List.find?_eq_some_iff_append.mp hfound
    have hsplit : g.toList = ((reference, first) :: before) ++ (target, group) :: after := hrows
    have hmem' : (target, group) ∈ g.toList := by
      rw [hsplit]
      exact List.mem_append_right _ List.mem_cons_self
    have htarget : g.count target = group.length := count_of_mem hmem'
    refine ⟨reference, mem_keys_iff.mpr ⟨first, hmem⟩, target, mem_keys_iff.mpr ⟨group, hmem'⟩,
      fun key hkey hlt => ?_, ?_, fun key hkey hne hlt => ?_, ?_⟩
    · obtain ⟨other, hm⟩ := mem_keys_iff.mp hkey
      cases mem_before_of_lt hfirst hm hlt
    · rw [htarget, hreference]
      simpa only [bne_iff_ne, ne_eq] using hdiffers
    · obtain ⟨other, hm⟩ := mem_keys_iff.mp hkey
      rw [count_of_mem hm, hreference] at hne
      rcases List.mem_cons.mp (mem_before_of_lt hsplit hm hlt) with heq | hm
      · cases heq
        exact hne rfl
      · have hsame := hbefore _ hm
        simp only [Bool.not_eq_true', bne_eq_false_iff_eq] at hsame
        exact hne hsame
    · rw [hfound, htarget, hreference]
      rfl

/-! ## Both passes

Coverage goes through the builds as they were asked for and stops at the first with a fault. Sizes
are looked at only if there was none. -/

/-- A selection is accepted if every build has an artifact for every target and all targets have the
same number of artifacts. -/
theorem validate_eq_ok_iff (g : TargetGroups) :
    g.validate = .ok () ↔ (∀ id ∈ g.ids, g.HasAll id) ∧ g.Level := by
  have hnone : g.validate = .ok () ↔ g.rectangularError? = none := by
    rw [validate]
    cases g.rectangularError? with
    | none => exact ⟨fun _ => rfl, fun _ => rfl⟩
    | some e => exact ⟨nofun, nofun⟩
  have hcovered : g.ids.findSome? g.coverageError? = none ↔ ∀ id ∈ g.ids, g.HasAll id := by
    rw [List.findSome?_eq_none_iff]
    exact forall₂_congr fun id _ => coverageError?_eq_none_iff
  rw [hnone, ← hcovered, ← sizeError?_eq_none_iff, rectangularError?]
  cases g.ids.findSome? g.coverageError? with
  | none => exact ⟨fun h => ⟨rfl, h⟩, fun h => h.2⟩
  | some e => exact ⟨nofun, fun h => nomatch h.1⟩

/-- The first build with a fault of coverage decides. -/
theorem validate_of_first {before after : List String} {e : SelectionError}
    (hids : g.ids = before ++ id :: after) (hbefore : ∀ i ∈ before, g.HasAll i)
    (he : g.coverageError? id = some e) : g.validate = .error e := by
  have hnone : before.findSome? g.coverageError? = none :=
    List.findSome?_eq_none_iff.mpr fun i hi => coverageError?_eq_none_iff.mpr (hbefore i hi)
  rw [validate, rectangularError?, hids, List.findSome?_append, hnone, List.findSome?_cons, he]
  rfl

/-- Without a fault of coverage the sizes decide. -/
theorem validate_of_covered {e : SelectionError} (hcovered : ∀ id ∈ g.ids, g.HasAll id)
    (he : g.sizeError? = some e) : g.validate = .error e := by
  have hnone : g.ids.findSome? g.coverageError? = none :=
    List.findSome?_eq_none_iff.mpr fun i hi => coverageError?_eq_none_iff.mpr (hcovered i hi)
  rw [validate, rectangularError?, hnone, he]

/-- **The check of a selection is exact.** It accepts the empty selection and those in which
every requested build has an artifact for every target and all targets have the same number
of artifacts. Otherwise the first requested build that lacks a target is named with exactly
the targets it lacks, or all targets are when it has no artifact in the selection; and if
none lacks a target, the least target and the least one that differs from it are named with
their numbers. Targets ascend in all of these. -/
theorem validate_group (c : Catalog) (ids skip : List String) :
    ((c.group ids skip).validate = .ok () ↔
      (c.group ids skip).keys = [] ∨
        (∀ id ∈ ids, ∀ key ∈ (c.group ids skip).keys, (c.group ids skip).Has id key) ∧
          (c.group ids skip).Level) ∧
    (c.group ids skip).keys.Pairwise (· < ·) ∧
    (∀ before id after, ids = before ++ id :: after →
      (∀ i ∈ before, ∀ key ∈ (c.group ids skip).keys, (c.group ids skip).Has i key) →
      (∃ key ∈ (c.group ids skip).keys, ¬ (c.group ids skip).Has id key) →
      ((∀ a ∈ (c.group ids skip).artifacts, a.id ≠ id) →
        (c.group ids skip).validate = .error (.noTargets (c.group ids skip).keys)) ∧
      ((∃ a ∈ (c.group ids skip).artifacts, a.id = id) →
        ∃ missing, (c.group ids skip).validate = .error (.missingTargets id missing) ∧
          missing.Pairwise (· < ·) ∧
          ∀ key, key ∈ missing ↔
            key ∈ (c.group ids skip).keys ∧ ¬ (c.group ids skip).Has id key)) ∧
    ((∀ id ∈ ids, ∀ key ∈ (c.group ids skip).keys, (c.group ids skip).Has id key) →
      ¬ (c.group ids skip).Level →
      ∃ reference ∈ (c.group ids skip).keys, ∃ target ∈ (c.group ids skip).keys,
        (∀ key ∈ (c.group ids skip).keys, ¬ key < reference) ∧
        (c.group ids skip).count target ≠ (c.group ids skip).count reference ∧
        (∀ key ∈ (c.group ids skip).keys,
          (c.group ids skip).count key ≠ (c.group ids skip).count reference → ¬ key < target) ∧
        (c.group ids skip).validate =
          .error (.unevenTargets target ((c.group ids skip).count target) reference
            ((c.group ids skip).count reference))) := by
  have hids : (c.group ids skip).ids = ids := rfl
  refine ⟨?_, ascending_keys _, fun before id after hsplit hbefore hlacks => ?_,
    fun hcovered huneven => ?_⟩
  · rw [validate_eq_ok_iff, hids]
    refine ⟨Or.inr, ?_⟩
    -- in an empty selection there is no target to be missed
    rintro (hnil | h)
    · refine ⟨fun id _ key hkey => ?_, fun key hkey => ?_⟩ <;>
        · rw [hnil] at hkey
          cases hkey
    · exact h
  · obtain ⟨hnone, hsome⟩ := coverageError?_of_lacks hlacks
    constructor
    · intro h
      exact validate_of_first hsplit hbefore (hnone (forall_not_has_iff.mpr h))
    · rintro ⟨a, ha, heq⟩
      -- an artifact in the selection is for some target of it
      have hhas : ∃ key ∈ (c.group ids skip).keys, (c.group ids skip).Has id key := by
        refine Classical.byContradiction fun hno => ?_
        exact forall_not_has_iff.mp (fun key hkey hh => hno ⟨key, hkey, hh⟩) a ha heq
      exact ⟨_, validate_of_first hsplit hbefore (hsome hhas), ascending_missing _ id,
        fun key => mem_missing_iff⟩
  · obtain ⟨reference, hr, target, ht, hleast, hne, hfirst, herror⟩ := sizeError?_of_uneven huneven
    exact ⟨reference, hr, target, ht, hleast, hne, hfirst, validate_of_covered hcovered herror⟩

end TargetGroups

end ReleasePipeline
