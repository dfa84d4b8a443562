/-
Tables and sets kept in ascending key order.

A table is the list of its rows with strictly ascending keys, and the order is part of the type, so
two tables with the same rows are the same table. It is what variables, registrations, groups of
artifacts and counts are kept in: whatever order things came in, they are listed in the order of
their keys, and messages and archives that are made from them are the same in every run.

Every change goes through one operation, `upsert`, that rewrites the row of one key and leaves the
rest alone. Its two properties, that the keys stay ascending (`ascending_upsertRows`) and what is
found afterwards (`find?_upsert`), are what later arguments use: setting a value and adding one that
is missing are instances of it.
-/

set_option autoImplicit false

namespace ReleasePipeline

/-- Key types whose `<` is a strict linear order that can be decided. -/
class KeyOrder (α : Type) extends LT α where
  [decideLt : DecidableLT α]
  irrefl : ∀ a : α, ¬ a < a
  trans : ∀ {a b c : α}, a < b → b < c → a < c
  eq_of_not_lt : ∀ {a b : α}, ¬ a < b → ¬ b < a → a = b

attribute [reducible, instance] KeyOrder.decideLt

instance : KeyOrder String where
  decideLt := inferInstance
  irrefl := String.lt_irrefl
  trans := String.lt_trans
  eq_of_not_lt := fun h₁ h₂ =>
    String.le_antisymm (String.not_lt.mp h₂) (String.not_lt.mp h₁)

/-- Rows with strictly ascending keys. -/
structure Table (α β : Type) [KeyOrder α] where
  toList : List (α × β)
  ascending : (toList.map Prod.fst).Pairwise (· < ·)

namespace Table

variable {α β : Type} [KeyOrder α]

/-! ## Rows as plain lists -/

/-- Rewrites the row of `k`, which `f` sees if it is there, or puts one in its
place in the order. -/
def upsertRows (k : α) (f : Option β → β) : List (α × β) → List (α × β)
  | [] => [(k, f none)]
  | (a, b) :: rest =>
    if k < a then (k, f none) :: (a, b) :: rest
    else if a < k then (a, b) :: upsertRows k f rest
    else (a, f (some b)) :: rest

/-- The value in the row of `k`. -/
def findRow? (k : α) : List (α × β) → Option β
  | [] => none
  | (a, b) :: rest => if k < a then none else if a < k then findRow? k rest else some b

/-- No key is added but the one that is written. -/
theorem mem_keys_upsertRows {k : α} {f : Option β → β} {rows : List (α × β)} {x : α} :
    x ∈ (upsertRows k f rows).map Prod.fst → x = k ∨ x ∈ rows.map Prod.fst := by
  induction rows with
  | nil => simp [upsertRows]
  | cons row rest ih =>
    obtain ⟨a, b⟩ := row
    rw [upsertRows]
    split
    · simp
    · split
      · intro h
        simp only [List.map_cons, List.mem_cons] at h ⊢
        rcases h with h | h
        · exact Or.inr (Or.inl h)
        · rcases ih h with h | h
          · exact Or.inl h
          · exact Or.inr (Or.inr h)
      · intro h
        exact Or.inr (by simpa using h)

/-- The keys stay ascending. -/
theorem ascending_upsertRows {k : α} {f : Option β → β} {rows : List (α × β)}
    (h : (rows.map Prod.fst).Pairwise (· < ·)) :
    ((upsertRows k f rows).map Prod.fst).Pairwise (· < ·) := by
  induction rows with
  | nil => simp [upsertRows]
  | cons row rest ih =>
    obtain ⟨a, b⟩ := row
    simp only [List.map_cons, List.pairwise_cons] at h
    rw [upsertRows]
    split
    next hk =>
      simp only [List.map_cons, List.pairwise_cons, List.mem_cons]
      refine ⟨?_, h.1, h.2⟩
      rintro x (rfl | hx)
      · exact hk
      · exact KeyOrder.trans hk (h.1 x hx)
    next hk =>
      split
      next ha =>
        simp only [List.map_cons, List.pairwise_cons]
        refine ⟨fun x hx => ?_, ih h.2⟩
        -- behind a smaller key there may be the new one, besides those that were there
        rcases mem_keys_upsertRows hx with rfl | hx
        · exact ha
        · exact h.1 x hx
      next ha => simpa using h

/-! ## Tables -/

/-- The table without rows. -/
def empty : Table α β := ⟨[], .nil⟩

instance : Inhabited (Table α β) := ⟨empty⟩

instance [DecidableEq α] [DecidableEq β] : DecidableEq (Table α β) := fun a b =>
  if h : a.toList = b.toList then
    isTrue (by cases a; cases b; cases h; rfl)
  else isFalse fun e => h (congrArg _ e)

/-- Rewrites or adds the row of `k`. -/
def upsert (t : Table α β) (k : α) (f : Option β → β) : Table α β :=
  ⟨upsertRows k f t.toList, ascending_upsertRows t.ascending⟩

/-- Sets the value of `k`. -/
def insert (t : Table α β) (k : α) (v : β) : Table α β := t.upsert k fun _ => v

/-- Sets the value of `k` unless it has one. -/
def insertNew (t : Table α β) (k : α) (v : β) : Table α β := t.upsert k (·.getD v)

/-- The value of `k`. -/
def find? (t : Table α β) (k : α) : Option β := findRow? k t.toList

/-- Whether `k` has a row. -/
def contains (t : Table α β) (k : α) : Bool := (t.find? k).isSome

/-- The keys, ascending. -/
def keys (t : Table α β) : List α := t.toList.map Prod.fst

/-- The values in the order of their keys. -/
def values (t : Table α β) : List β := t.toList.map Prod.snd

/-- The number of rows. -/
def size (t : Table α β) : Nat := t.toList.length

/-- Whether there is no row. -/
def isEmpty (t : Table α β) : Bool := t.toList.isEmpty

/-- The table of the given rows; of two rows with one key the later counts. -/
def ofList (rows : List (α × β)) : Table α β :=
  rows.foldl (fun t (k, v) => t.insert k v) empty

/-! ## The equations of `upsert` -/

/-- In a row that was written there is what `f` makes of the earlier one, and the other rows are as
they were. The search stops at the first key that is not smaller, which is where the row would be.
-/
theorem findRow?_upsertRows {k : α} {f : Option β → β} {rows : List (α × β)}
    (h : (rows.map Prod.fst).Pairwise (· < ·)) (x : α) [Decidable (x = k)] :
    findRow? x (upsertRows k f rows) =
      if x = k then some (f (findRow? k rows)) else findRow? x rows := by
  induction rows with
  | nil =>
    by_cases hx : x = k
    · subst hx
      simp [upsertRows, findRow?, KeyOrder.irrefl]
    · simp only [if_neg hx, upsertRows, findRow?]
      split
      · rfl
      · split
        · rfl
        next h₁ h₂ => exact absurd (KeyOrder.eq_of_not_lt h₁ h₂) hx
  | cons row rest ih =>
    obtain ⟨a, b⟩ := row
    simp only [List.map_cons, List.pairwise_cons] at h
    have ih := ih h.2
    rw [upsertRows]
    by_cases hx : x = k
    · subst hx
      by_cases h₁ : x < a
      · simp [h₁, findRow?, KeyOrder.irrefl]
      · by_cases h₂ : a < x
        · simpa [h₁, h₂, findRow?] using ih
        · simp [h₁, h₂, findRow?]
    · rw [if_neg hx] at ih ⊢
      -- where the new row came to stand before all others, a smaller key still has no row
      by_cases h₁ : k < a
      · simp only [h₁, if_true, findRow?]
        by_cases h₃ : x < k
        · simp [h₃, KeyOrder.trans h₃ h₁]
        · by_cases h₄ : k < x
          · simp [h₃, h₄]
          · exact absurd (KeyOrder.eq_of_not_lt h₃ h₄) hx
      · by_cases h₂ : a < k
        · simp only [h₁, h₂, if_false, if_true, findRow?, ih]
        · have : k = a := KeyOrder.eq_of_not_lt h₁ h₂
          subst this
          simp only [h₁, if_false, findRow?]
          by_cases h₃ : x < k
          · simp [h₃]
          · by_cases h₄ : k < x
            · simp [h₃, h₄]
            · exact absurd (KeyOrder.eq_of_not_lt h₃ h₄) hx

/-- In an empty table nothing is found. -/
@[simp] theorem find?_empty (x : α) : (empty : Table α β).find? x = none := rfl

/-- What is found once a row was written. -/
theorem find?_upsert (t : Table α β) (k : α) (f : Option β → β) (x : α) [Decidable (x = k)] :
    (t.upsert k f).find? x = if x = k then some (f (t.find? k)) else t.find? x :=
  findRow?_upsertRows t.ascending x

/-- The value that was set last is found. -/
theorem find?_insert (t : Table α β) (k : α) (v : β) (x : α) [Decidable (x = k)] :
    (t.insert k v).find? x = if x = k then some v else t.find? x :=
  t.find?_upsert k _ x

/-- A value that is there is kept. -/
theorem find?_insertNew (t : Table α β) (k : α) (v : β) (x : α) [Decidable (x = k)] :
    (t.insertNew k v).find? x = if x = k then some ((t.find? k).getD v) else t.find? x :=
  t.find?_upsert k _ x

end Table

/-! ## Sets -/

/-- A set of keys, listed in ascending order. -/
abbrev KeySet (α : Type) [KeyOrder α] := Table α Unit

namespace KeySet

variable {α : Type} [KeyOrder α]

/-- Adds a member. -/
def add (s : KeySet α) (k : α) : KeySet α := s.insert k ()

/-- The set of the given members. -/
def ofMembers (ks : List α) : KeySet α := ks.foldl add Table.empty

end KeySet

end ReleasePipeline
