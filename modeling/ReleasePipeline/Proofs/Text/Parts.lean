/-
The parts of a text: between separators, between blanks, and before the blanks at its end.

The cutting of a text at a separator is the one of the library, so that what is known of that one
may be used (`splitOn_eq`). Added to it is what makes the parts of a text those of no other: none of
them holds a separator (`not_mem_of_mem_splitOn`). Where parts are put together, some of them first
and then the rest, there is one separator in between (`intercalate_append`). What a text begins
with, if it holds no separator, its first part begins with (`isPrefixOf_of_splitOn_eq_cons`). Cut
once, a text is cut at its first separator (`splitOnce?_eq_some_iff`).

Words stand between blanks, of which there may be any number, so a text of blanks has none
(`words_eq_nil_iff`). Of the blanks at the end of a text nothing is kept, and everything before them
is (`dropBlanksEnd_append`).
-/
import Mathlib.Data.List.TakeWhile
import ReleasePipeline.Text.Blank
import ReleasePipeline.Text.Occurrence

set_option autoImplicit false

namespace ReleasePipeline.Text

variable {α : Type}

/-- Parts that are put together in two portions have one separator between the portions. -/
theorem intercalate_append (sep : α) {front back : List (List α)} (hfront : front ≠ [])
    (hback : back ≠ []) :
    [sep].intercalate (front ++ back)
      = [sep].intercalate front ++ sep :: [sep].intercalate back := by
  induction front with
  | nil => exact absurd rfl hfront
  | cons part front ih =>
    -- behind the last part of the first portion comes the separator between the portions
    by_cases hrest : front = []
    · rw [hrest, List.singleton_append, List.intercalate_cons_of_ne_nil hback,
        List.intercalate_singleton, List.append_assoc, List.singleton_append]
    · rw [List.cons_append,
        List.intercalate_cons_of_ne_nil (List.append_ne_nil_of_left_ne_nil hrest back), ih hrest,
        List.intercalate_cons_of_ne_nil hrest, List.append_assoc _ _ (sep :: _)]

/-- Two texts that are cut at their first separator are the same only if both of their parts are. -/
theorem append_cons_inj {sep : α} {before before' after after' : List α} (hbefore : sep ∉ before)
    (hbefore' : sep ∉ before') (h : before ++ sep :: after = before' ++ sep :: after') :
    before = before' ∧ after = after' := by
  induction before generalizing before' with
  | nil =>
    cases before' with
    | nil => exact ⟨rfl, (List.cons.inj h).2⟩
    | cons c before' => exact absurd ((List.cons.inj h).1 ▸ List.mem_cons_self) hbefore'
  | cons c before ih =>
    cases before' with
    | nil => exact absurd ((List.cons.inj h).1 ▸ List.mem_cons_self) hbefore
    | cons c' before' =>
      obtain ⟨rfl, hrest⟩ := List.cons.inj h
      rw [List.mem_cons, not_or] at hbefore hbefore'
      obtain ⟨rfl, hafter⟩ := ih hbefore.2 hbefore'.2 hrest
      exact ⟨rfl, hafter⟩

variable [BEq α]

/-- There is a first part, which is empty if the text is. -/
theorem exists_splitOn_eq_cons (sep : α) (cs : List α) :
    ∃ part parts, List.splitOn sep cs = part :: parts :=
  List.exists_cons_of_ne_nil (List.splitOn_ne_nil sep cs)

/-- What is written behind a text that has a separator does not change where it is cut first. -/
theorem splitOnce?_append (sep : α) (front text : List α) :
    splitOnce? sep (front ++ text)
      = match splitOnce? sep front with
        | some (before, after) => some (before, after ++ text)
        | none => (splitOnce? sep text).map fun (before, after) => (front ++ before, after) := by
  induction front with
  | nil =>
    rw [List.nil_append, splitOnce?]
    exact Option.map_id'.symm
  | cons c front ih =>
    rw [List.cons_append, splitOnce?, splitOnce?]
    split
    · rfl
    · rw [ih]
      cases splitOnce? sep front with
      | some parts => rfl
      | none => cases splitOnce? sep text <;> rfl

variable [LawfulBEq α] {sep c x : α} {a b p cs part : List α} {parts : List (List α)}

/-- Only a text without a separator is not cut. -/
theorem splitOnce?_eq_none_iff : splitOnce? sep cs = none ↔ sep ∉ cs := by
  induction cs with
  | nil => exact iff_of_true rfl List.not_mem_nil
  | cons c cs ih =>
    rw [splitOnce?, List.mem_cons, not_or]
    by_cases hc : c = sep
    · rw [if_pos (beq_iff_eq.mpr hc)]
      exact iff_of_false (Option.some_ne_none _) fun h => h.1 hc.symm
    · rw [if_neg (by simpa using hc), Option.map_eq_none_iff, ih, and_iff_right (Ne.symm hc)]

/-- A text is cut at its first separator. -/
theorem splitOnce?_eq_some_iff :
    splitOnce? sep cs = some (a, b) ↔ sep ∉ a ∧ cs = a ++ sep :: b := by
  constructor
  · intro h
    induction cs generalizing a with
    | nil => exact absurd h (Option.some_ne_none _).symm
    | cons c cs ih =>
      rw [splitOnce?] at h
      by_cases hc : c = sep
      · rw [if_pos (beq_iff_eq.mpr hc)] at h
        obtain ⟨rfl, rfl⟩ := Prod.mk.inj (Option.some.inj h)
        exact ⟨List.not_mem_nil, hc ▸ rfl⟩
      · rw [if_neg (by simpa using hc)] at h
        obtain ⟨⟨front, rest⟩, hparts, heq⟩ := Option.map_eq_some_iff.mp h
        obtain ⟨rfl, rfl⟩ := Prod.mk.inj heq
        obtain ⟨hfront, rfl⟩ := ih hparts
        exact ⟨List.not_mem_cons_of_ne_of_not_mem (Ne.symm hc) hfront, rfl⟩
  · rintro ⟨ha, rfl⟩
    rw [splitOnce?_append, splitOnce?_eq_none_iff.mpr ha, splitOnce?, if_pos BEq.rfl]
    simp only [Option.map_some, List.append_nil]

/-- A separator begins a new part. -/
theorem splitOn_cons_self (sep : α) (cs : List α) :
    List.splitOn sep (sep :: cs) = [] :: List.splitOn sep cs := by
  rw [List.splitOn_cons_eq_if_modifyHead, if_pos BEq.rfl]

/-- What is no separator belongs to the first part. -/
theorem splitOn_cons_of_ne (hc : c ≠ sep) (h : List.splitOn sep cs = part :: parts) :
    List.splitOn sep (c :: cs) = (c :: part) :: parts := by
  rw [List.splitOn_cons_eq_if_modifyHead, if_neg (by simpa using hc), h, List.modifyHead_cons]

/-- The parts are those of the library. -/
theorem splitOn_eq (sep : α) (cs : List α) : splitOn sep cs = List.splitOn sep cs := by
  induction cs with
  | nil => rw [splitOn_nil, List.splitOn_nil]
  | cons c cs ih =>
    rw [splitOn, ih]
    by_cases hc : c = sep
    · rw [if_pos (beq_iff_eq.mpr hc), hc, splitOn_cons_self]
    · obtain ⟨part, parts, hparts⟩ := exists_splitOn_eq_cons sep cs
      rw [if_neg (by simpa using hc), splitOn_cons_of_ne hc hparts, hparts]

/-- No part holds a separator. -/
theorem not_mem_of_mem_splitOn (h : part ∈ List.splitOn sep cs) : sep ∉ part := by
  induction cs generalizing part with
  | nil =>
    rw [List.splitOn_nil, List.mem_singleton] at h
    simp [h]
  | cons c cs ih =>
    by_cases hc : c = sep
    · rw [hc, splitOn_cons_self, List.mem_cons] at h
      rcases h with rfl | h
      · simp
      · exact ih h
    · obtain ⟨first, parts, hparts⟩ := exists_splitOn_eq_cons sep cs
      rw [splitOn_cons_of_ne hc hparts, List.mem_cons] at h
      rw [hparts] at ih
      rcases h with rfl | h
      · -- the first part got one more character, which is no separator
        have hfirst : sep ∉ first := ih List.mem_cons_self
        simp [Ne.symm hc, hfirst]
      · exact ih (List.mem_cons_of_mem _ h)

/-! ## What a text begins with -/

/-- Behind a character that is not looked for, it does not matter what follows. -/
theorem isPrefixOf_append_cons (hx : x ∉ p) : p.isPrefixOf (a ++ x :: b) = p.isPrefixOf a := by
  induction a generalizing p with
  | nil =>
    cases p with
    | nil => simp
    | cons q p =>
      have hq : (q == x) = false := beq_false_of_ne fun heq => hx (by simp [heq])
      rw [List.nil_append, List.isPrefixOf_cons_nil, List.isPrefixOf_cons_cons, hq,
        Bool.false_and]
  | cons c a ih =>
    cases p with
    | nil => simp
    | cons q p =>
      rw [List.cons_append, List.isPrefixOf_cons_cons, List.isPrefixOf_cons_cons,
        ih fun hmem => hx (List.mem_cons_of_mem q hmem)]

/-- What a text begins with its first part begins with, if it holds no separator. -/
theorem isPrefixOf_of_splitOn_eq_cons (hp : sep ∉ p) (h : List.splitOn sep cs = part :: parts) :
    p.isPrefixOf part = p.isPrefixOf cs := by
  have hcs : [sep].intercalate (part :: parts) = cs := by rw [← h, List.intercalate_splitOn]
  by_cases hparts : parts = []
  · rw [← hcs, hparts, List.intercalate_singleton]
  · rw [← hcs, List.intercalate_cons_of_ne_nil hparts, List.append_assoc, List.singleton_append,
      isPrefixOf_append_cons hp]

/-! ## Words -/

/-- A text has no words exactly if nothing but blanks is in it. -/
theorem words_eq_nil_iff {cs : List Char} : words cs = [] ↔ ∀ c ∈ cs, isBlank c = true := by
  induction cs with
  | nil => exact iff_of_true rfl (List.forall_mem_nil _)
  | cons c cs ih =>
    rw [words] at ih
    rw [words, List.foldr_cons, List.forall_mem_cons]
    -- the text is read from its end, and of the rest it counts what was found and which word is
    -- begun
    generalize cs.foldr words.step ([], []) = read at ih ⊢
    obtain ⟨found, current⟩ := read
    unfold words.step
    dsimp only
    by_cases hblank : isBlank c = true
    · rw [if_pos hblank, ih, and_iff_right hblank]
    · rw [if_neg hblank]
      refine iff_of_false ?_ fun h => hblank h.1
      split <;> exact List.cons_ne_nil _ _

/-! ## Blanks at the end -/

/-- If anything is left of the second text, the first stays whole, and else the blanks at the end of
the first go, too. -/
theorem dropBlanksEnd_append (cs ds : List Char) :
    dropBlanksEnd (cs ++ ds)
      = if dropBlanksEnd ds = [] then dropBlanksEnd cs else cs ++ dropBlanksEnd ds := by
  simp only [dropBlanksEnd, List.reverse_append, List.dropWhile_append, List.reverse_eq_nil_iff,
    List.isEmpty_iff]
  split
  · rfl
  · rw [List.reverse_append, List.reverse_reverse]

/-- A character by itself goes exactly if it is a blank. -/
theorem dropBlanksEnd_singleton (c : Char) :
    dropBlanksEnd [c] = if isBlank c then [] else [c] := by
  cases hc : isBlank c <;> simp [dropBlanksEnd, hc]

/-- The first character goes exactly if it is a blank and nothing is left of the rest. -/
theorem dropBlanksEnd_cons (c : Char) (cs : List Char) :
    dropBlanksEnd (c :: cs)
      = if dropBlanksEnd cs = [] then if isBlank c then [] else [c] else c :: dropBlanksEnd cs := by
  rw [← dropBlanksEnd_singleton]
  exact dropBlanksEnd_append [c] cs

/-- Nothing is left exactly of a text of blanks. -/
theorem dropBlanksEnd_eq_nil_iff {cs : List Char} :
    dropBlanksEnd cs = [] ↔ ∀ c ∈ cs, isBlank c = true := by
  induction cs with
  | nil => exact iff_of_true rfl (List.forall_mem_nil _)
  | cons c cs ih =>
    rw [dropBlanksEnd_cons, List.forall_mem_cons, ← ih]
    by_cases hrest : dropBlanksEnd cs = []
    · rw [if_pos hrest, and_iff_left hrest]
      split
      · next hc => exact iff_of_true rfl hc
      · next hc => exact iff_of_false (List.cons_ne_nil _ _) hc
    · rw [if_neg hrest]
      exact iff_of_false (List.cons_ne_nil _ _) fun h => hrest h.2

/-- What is left is the beginning of the text. -/
theorem dropBlanksEnd_isPrefix (cs : List Char) : dropBlanksEnd cs <+: cs := by
  rw [dropBlanksEnd, ← List.reverse_suffix, List.reverse_reverse]
  exact List.dropWhile_suffix _

/-- Up to a character that is no blank, everything stays. -/
theorem dropBlanksEnd_append_cons (cs ds : List Char) {c : Char} (hc : isBlank c = false) :
    dropBlanksEnd (cs ++ c :: ds) = cs ++ c :: dropBlanksEnd ds := by
  have hkept : dropBlanksEnd (c :: ds) = c :: dropBlanksEnd ds := by
    rw [dropBlanksEnd_cons, hc]
    split
    · next hrest => rw [hrest, if_neg Bool.false_ne_true]
    · rfl
  rw [dropBlanksEnd_append, hkept, if_neg (List.cons_ne_nil _ _)]

/-- Trimming only takes away. -/
theorem mem_of_mem_trimmed {c : Char} {cs : List Char} (h : c ∈ trimmed cs) : c ∈ cs := by
  have hfront : c ∈ dropBlanks cs := (dropBlanksEnd_isPrefix _).subset h
  exact (List.dropWhile_sublist _).subset hfront

/-- Nothing is left of a text by trimming it exactly if it is blank. -/
theorem trim_eq_empty_iff {text : String} :
    trim text = "" ↔ ∀ c ∈ text.toList, isBlank c = true := by
  rw [trim, String.ofList_eq_empty_iff, trimmed, dropBlanksEnd_eq_nil_iff, dropBlanks]
  constructor
  · intro h
    rw [← List.takeWhile_append_dropWhile (p := isBlank) (l := text.toList),
      List.forall_mem_append]
    exact ⟨fun c hc => List.mem_takeWhile_imp hc, h⟩
  · intro h c hc
    exact h c ((List.dropWhile_sublist _).subset hc)

end ReleasePipeline.Text
