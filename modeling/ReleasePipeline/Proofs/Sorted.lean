/-
What a table and a set of keys hold.

`Sorted` gives each operation its equation in terms of the look-up. Here the look-up is
joined to the other views: a key is found with a value exactly when the table has that row,
and a key is listed exactly when it is found. Since the rows ascend, nothing else can be different
about two tables, and what is found decides which table it is (`Table.ext`). For sets the look-up is
membership, and the two ways of building a set are described by it.
-/
import Mathlib.Data.List.Sort
import ReleasePipeline.Sorted

set_option autoImplicit false

namespace ReleasePipeline

/-! ## Ascending lists -/

section Ascending

variable {α γ : Type} [KeyOrder α]

/-- In an ascending list nothing stands twice. -/
theorem nodup_of_ascending {xs : List α} (h : xs.Pairwise (· < ·)) : xs.Nodup := by
  refine h.imp ?_
  rintro x _ hlt rfl
  exact KeyOrder.irrefl x hlt

/-- Two lists with the same members, both ascending by a key of these, are the same list. -/
theorem eq_of_ascending (key : γ → α) {xs ys : List γ}
    (hxs : xs.Pairwise fun a b => key a < key b) (hys : ys.Pairwise fun a b => key a < key b)
    (h : ∀ x, x ∈ xs ↔ x ∈ ys) : xs = ys := by
  have hantisymm : Std.Antisymm fun a b : γ => key a < key b :=
    ⟨fun a _ hab hba => absurd (KeyOrder.trans hab hba) (KeyOrder.irrefl (key a))⟩
  have hirrefl : Std.Irrefl fun a b : γ => key a < key b := ⟨fun a => KeyOrder.irrefl (key a)⟩
  exact hxs.eq_of_mem_iff hys h

end Ascending

namespace Table

variable {α β : Type} [KeyOrder α]

/-! ## Rows -/

/-- The look-up finds the rows and nothing else. It stops at the first key that is not
smaller, and the ascending order is why nothing is missed after that. -/
theorem findRow?_eq_some_iff_mem {k : α} {v : β} {rows : List (α × β)}
    (h : (rows.map Prod.fst).Pairwise (· < ·)) : findRow? k rows = some v ↔ (k, v) ∈ rows := by
  induction rows with
  | nil => simp only [findRow?, List.not_mem_nil, reduceCtorEq]
  | cons row rest ih =>
    obtain ⟨a, b⟩ := row
    simp only [List.map_cons, List.pairwise_cons] at h
    have hrest : (k, v) ∈ rest → a < k := fun hm => h.1 k (List.mem_map_of_mem hm)
    simp only [findRow?, List.mem_cons, Prod.mk.injEq]
    -- the search stops here, and all keys behind this row are greater still
    by_cases hka : k < a
    · rw [if_pos hka]
      constructor
      · intro hnone
        cases hnone
      · rintro (⟨rfl, -⟩ | hm)
        · exact absurd hka (KeyOrder.irrefl k)
        · exact absurd (KeyOrder.trans hka (hrest hm)) (KeyOrder.irrefl k)
    · rw [if_neg hka]
      -- the search goes on behind this row, which is not the one that is looked for
      by_cases hak : a < k
      · rw [if_pos hak, ih h.2]
        refine ⟨Or.inr, ?_⟩
        rintro (⟨rfl, -⟩ | hm)
        · exact absurd hak (KeyOrder.irrefl k)
        · exact hm
      · rw [if_neg hak, Option.some.injEq]
        have hk : k = a := KeyOrder.eq_of_not_lt hka hak
        refine ⟨fun e => Or.inl ⟨hk, e.symm⟩, ?_⟩
        rintro (⟨-, e⟩ | hm)
        · exact e.symm
        · exact absurd (hrest hm) hak

/-- A key is found with a value exactly when the table has that row. -/
theorem find?_eq_some_iff_mem {t : Table α β} {k : α} {v : β} :
    t.find? k = some v ↔ (k, v) ∈ t.toList :=
  findRow?_eq_some_iff_mem t.ascending

/-- The listed keys are those that are found. -/
theorem mem_keys_iff {t : Table α β} {k : α} : k ∈ t.keys ↔ ∃ v, t.find? k = some v := by
  rw [keys, List.mem_map]
  constructor
  · rintro ⟨⟨_, v⟩, hm, rfl⟩
    exact ⟨v, find?_eq_some_iff_mem.mpr hm⟩
  · rintro ⟨v, hv⟩
    exact ⟨(k, v), find?_eq_some_iff_mem.mp hv, rfl⟩

/-- The listed keys are those that have a row. -/
theorem mem_keys_iff_contains {t : Table α β} {k : α} : k ∈ t.keys ↔ t.contains k = true := by
  rw [mem_keys_iff, contains, Option.isSome_iff_exists]

/-- Tables in which the same is found are the same. -/
theorem ext {t t' : Table α β} (h : ∀ k, t.find? k = t'.find? k) : t = t' := by
  have hmem : ∀ row, row ∈ t.toList ↔ row ∈ t'.toList := by
    rintro ⟨k, v⟩
    rw [← find?_eq_some_iff_mem, ← find?_eq_some_iff_mem, h]
  -- the same rows in the same order are the same table
  have hrows : t.toList = t'.toList :=
    eq_of_ascending Prod.fst (List.pairwise_map.mp t.ascending) (List.pairwise_map.mp t'.ascending)
      hmem
  cases t
  cases t'
  cases hrows
  rfl

end Table

/-! ## Sets -/

namespace KeySet

variable {α : Type} [KeyOrder α] [DecidableEq α]

/-- Adding a member adds this one and keeps the others. -/
theorem contains_add {s : KeySet α} {k x : α} :
    (s.add k).contains x = true ↔ x = k ∨ s.contains x = true := by
  rw [add, Table.contains, Table.find?_insert, Table.contains]
  by_cases hx : x = k
  · simp only [hx, if_true, Option.isSome_some, true_or]
  · simp only [hx, if_false, false_or]

/-- Adding members one by one adds them all and keeps what was there. -/
theorem contains_foldl_add {ks : List α} {s : KeySet α} {x : α} :
    (ks.foldl add s).contains x = true ↔ x ∈ ks ∨ s.contains x = true := by
  induction ks generalizing s with
  | nil => simp only [List.foldl_nil, List.not_mem_nil, false_or]
  | cons k ks ih =>
    rw [List.foldl_cons, ih, contains_add, List.mem_cons, ← or_assoc, or_comm (a := x ∈ ks)]

/-- The set of the given members holds them and nothing else. -/
theorem contains_ofMembers {ks : List α} {x : α} :
    (ofMembers ks).contains x = true ↔ x ∈ ks := by
  rw [ofMembers, contains_foldl_add]
  simp only [Table.contains, Table.find?_empty, Option.isSome_none, Bool.false_eq_true, or_false]

end KeySet

end ReleasePipeline
