/-
Which order of production a selection can see.

The catalog lists artifacts in the order in which they were produced. That order is partly an
accident: builds that have nothing to do with each other could have been made the other way round.
What is no accident is the order among artifacts of one build for one target, the *sequence* of that
build and target, and two catalogs with the same sequences (`SameSequences`) differ by the accident
only. Exchanging two neighbours that belong to different sequences is such a difference
(`SameSequences.exchange`).

Grouping sees the sequences and no more: a group is put together from them, and the table of groups
keeps no order but that of the keys (`SameSequences.group_eq`). What is not grouped, but taken from
one build, comes in another order but is the same otherwise (`SameSequences.perm_byId`). And what
modules do to a catalog, adding artifacts and marking those of a selection, they do to its
sequences.
-/
import ReleasePipeline.Proofs.Catalog.Grouping

set_option autoImplicit false

namespace ReleasePipeline.Catalog

/-- The artifacts of one build for one target, in the order of production. -/
def sequence (c : Catalog) (id key : String) : List Artifact :=
  c.artifacts.filter fun a => a.id = id ∧ a.key = key

/-- Each build has the same artifacts for each target in both catalogs, in the same order. -/
def SameSequences (c d : Catalog) : Prop := ∀ id key, c.sequence id key = d.sequence id key

namespace SameSequences

variable {c d : Catalog}

/-- Neighbours that differ in their build or their target may be exchanged. -/
theorem exchange (before after : List Artifact) {a b : Artifact}
    (h : ¬ (a.id = b.id ∧ a.key = b.key)) :
    SameSequences ⟨before ++ a :: b :: after⟩ ⟨before ++ b :: a :: after⟩ := by
  intro id key
  have hboth : ¬ ((a.id = id ∧ a.key = key) ∧ (b.id = id ∧ b.key = key)) := by
    rintro ⟨⟨hid, hkey⟩, hid', hkey'⟩
    exact h ⟨hid.trans hid'.symm, hkey.trans hkey'.symm⟩
  simp only [sequence, List.filter_append, List.filter_cons, decide_eq_true_eq]
  -- of the two neighbours at most one is in the sequence that is looked at
  by_cases ha : a.id = id ∧ a.key = key
  · have hb : ¬ (b.id = id ∧ b.key = key) := fun hb => hboth ⟨ha, hb⟩
    simp only [if_pos ha, if_neg hb]
  · simp only [if_neg ha]

/-! ## Groups -/

/-- A group is put together from sequences. -/
theorem ofTarget_eq (h : c.SameSequences d) (ids : List String) (key : String) :
    c.ofTarget ids key = d.ofTarget ids key :=
  List.flatMap_congr fun id _ => h id key

/-- **Grouping sees the sequences only.** -/
theorem group_eq (h : c.SameSequences d) (ids skip : List String) :
    c.group ids skip = d.group ids skip := by
  have hgroups : (c.group ids skip).groups = (d.group ids skip).groups := by
    -- a table has no order of its own, so it is settled by its look-ups
    refine Table.ext fun key => ?_
    have hc : (c.group ids skip).groups.find? key = _ := get?_group
    have hd : (d.group ids skip).groups.find? key = _ := get?_group
    rw [hc, hd, h.ofTarget_eq]
  exact congrArg (TargetGroups.mk ids) hgroups

/-! ## Builds -/

/-- An artifact is in its own sequence as often as it is in the catalog. -/
theorem count_sequence (c : Catalog) (a : Artifact) :
    (c.sequence a.id a.key).count a = c.artifacts.count a :=
  List.count_filter (decide_eq_true ⟨rfl, rfl⟩)

/-- The catalogs hold the same artifacts. -/
theorem perm (h : c.SameSequences d) : c.artifacts.Perm d.artifacts := by
  rw [List.perm_iff_count]
  intro a
  rw [← count_sequence c, ← count_sequence d, h]

/-- And so do the builds. -/
theorem perm_byId (h : c.SameSequences d) (id : String) : (c.byId id).Perm (d.byId id) :=
  h.perm.filter _

/-! ## Changes -/

/-- What is added goes to the ends of sequences. -/
theorem addAll (h : c.SameSequences d) (added : List Artifact) :
    (c.addAll added).SameSequences (d.addAll added) := by
  intro id key
  -- what is added later is later in each of its sequences
  have happend : ∀ b : Catalog, (b.addAll added).sequence id key
      = b.sequence id key ++ added.filter fun a => a.id = id ∧ a.key = key := by
    intro b
    rw [sequence, artifacts_addAll, List.filter_append]
    rfl
  rw [happend, happend, h]

/-- To mark artifacts is to mark them in their sequences. -/
theorem setPacking (h : c.SameSequences d) (ids skip : List String) (packing : Packing) :
    (c.setPacking ids skip packing).SameSequences (d.setPacking ids skip packing) := by
  intro id key
  let mark : Artifact → Artifact := fun a =>
    if selects ids skip a then { a with packing } else a
  -- the mark is not part of what a sequence goes by
  have hmark : ∀ a, (mark a).id = a.id ∧ (mark a).key = a.key := by
    intro a
    dsimp only [mark]
    split
    · exact ⟨rfl, rfl⟩
    · exact ⟨rfl, rfl⟩
  have hmap : ∀ b : Catalog, (b.setPacking ids skip packing).sequence id key
      = (b.sequence id key).map mark := by
    intro b
    have hartifacts : (b.setPacking ids skip packing).artifacts = b.artifacts.map mark := rfl
    rw [sequence, hartifacts, List.filter_map]
    refine congrArg (List.map mark) (List.filter_congr fun a _ => ?_)
    rw [Function.comp_apply, (hmark a).1, (hmark a).2]
  rw [hmap, hmap, h]

end SameSequences

end ReleasePipeline.Catalog
