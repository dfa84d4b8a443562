/-
What is done to a section after it was cut out does not change what its lines begin with.

Whether a line begins as headings do is decided by what follows a line end, and the mark of headings
holds no line end, so this can be told without cutting the text into lines (`openings`,
`map_splitOn`). Links are written out behind brackets that close, and second destinations are taken
away behind parentheses that close, each on one line. Neither character is in the mark. So whatever
stood at the beginning of a line stands there still, as far as the mark is concerned
(`Retouched.openings_eq`).
-/
import Mathlib.Data.List.TakeWhile
import ReleasePipeline.Build.Changelog.Section
import ReleasePipeline.Proofs.Text.Parts

set_option autoImplicit false

namespace ReleasePipeline.Build.Changelog

variable {a b cs ds inside : List Char} {x c : Char}

/-! ## Lines -/

/-- Which of the lines below the first begin as headings do. -/
def openingsBelow : List Char → List Bool
  | [] => []
  | c :: cs => if c = '\n' then headingMark.isPrefixOf cs :: openingsBelow cs else openingsBelow cs

/-- Which lines begin as headings do. -/
def openings (cs : List Char) : List Bool := headingMark.isPrefixOf cs :: openingsBelow cs

/-- The mark of headings is on one line, so a line end decides nothing about the line before it. -/
theorem newline_not_mem_headingMark : '\n' ∉ headingMark := by decide

/-- The lines of a text are those that are told apart without cutting it. -/
theorem map_splitOn (cs : List Char) :
    (List.splitOn '\n' cs).map headingMark.isPrefixOf = openings cs := by
  induction cs with
  | nil => rfl
  | cons c cs ih =>
    -- what is left always has a first line, which may be empty
    obtain ⟨line, lines, hlines⟩ := Text.exists_splitOn_eq_cons '\n' cs
    by_cases hc : c = '\n'
    · rw [hc, Text.splitOn_cons_self, List.map_cons, ih, openings, openings, openingsBelow,
        if_pos rfl]
      rfl
    · have hall := Text.splitOn_cons_of_ne hc hlines
      rw [hlines, List.map_cons, openings] at ih
      rw [hall, List.map_cons, Text.isPrefixOf_of_splitOn_eq_cons newline_not_mem_headingMark hall,
        openings, openingsBelow, if_neg hc, (List.cons.inj ih).2]

/-- A character that is not in the mark cuts the question in two: no line can need what stands
behind it in order to begin as headings do. -/
theorem openingsBelow_append_cons (hx : x ∉ headingMark) :
    openingsBelow (a ++ x :: b) = openingsBelow a ++ openingsBelow (x :: b) := by
  induction a with
  | nil => rfl
  | cons c a ih =>
    rw [List.cons_append, openingsBelow, openingsBelow, ih, Text.isPrefixOf_append_cons hx]
    split
    · rw [List.cons_append]
    · rfl

/-- The same with the first line counted. -/
theorem openings_append_cons (hx : x ∉ headingMark) :
    openings (a ++ x :: b) = openings a ++ openingsBelow (x :: b) := by
  rw [openings, Text.isPrefixOf_append_cons hx, openingsBelow_append_cons hx, openings,
    List.cons_append]

/-- One line has no lines below it. -/
theorem openingsBelow_append_of_not_mem (ha : '\n' ∉ a) :
    openingsBelow (a ++ b) = openingsBelow b := by
  induction a with
  | nil => rfl
  | cons c a ih =>
    rw [List.mem_cons, not_or] at ha
    rw [List.cons_append, openingsBelow, if_neg (Ne.symm ha.1), ih ha.2]

/-- Where no line of a text below the first begins so, none does at the front of it. -/
theorem forall_openingsBelow_of_prefix (h : a <+: cs) (hcs : ∀ o ∈ openingsBelow cs, o = false) :
    ∀ o ∈ openingsBelow a, o = false := by
  induction a generalizing cs with
  | nil => exact List.forall_mem_nil _
  | cons c a ih =>
    obtain ⟨b, rfl⟩ := h
    rw [List.cons_append, openingsBelow] at hcs
    rw [openingsBelow]
    split
    · next hc =>
      rw [if_pos hc, List.forall_mem_cons] at hcs
      refine List.forall_mem_cons.mpr ⟨?_, ih (List.prefix_append a b) hcs.2⟩
      rw [Bool.eq_false_iff, ne_eq, List.isPrefixOf_iff_prefix] at hcs ⊢
      -- a mark at the end of the front is a mark in the whole text
      exact fun hmark => hcs.1 (hmark.trans (List.prefix_append a b))
    · next hc =>
      rw [if_neg hc] at hcs
      exact ih (List.prefix_append a b) hcs

/-! ## Retouching -/

/-- One text comes from another by changes behind characters that are not in the mark, on their
lines. -/
inductive Retouched : List Char → List Char → Prop
  | nil : Retouched [] []
  | kept {cs ds : List Char} (c : Char) (h : Retouched cs ds) : Retouched (c :: cs) (c :: ds)
  | changed {x : Char} {gone put cs ds : List Char} (hx : x ∉ '\n' :: headingMark)
    (hgone : '\n' ∉ gone) (hput : '\n' ∉ put) (h : Retouched cs ds) :
    Retouched (x :: (gone ++ cs)) (x :: (put ++ ds))

namespace Retouched

/-- What stands in front of a change may be anything. -/
theorem append_left (a : List Char) (h : Retouched cs ds) : Retouched (a ++ cs) (a ++ ds) := by
  induction a with
  | nil => exact h
  | cons c a ih => exact .kept c ih

/-- A text begins with a part of the mark after the changes if and only if it did before them. -/
theorem isPrefixOf (h : Retouched cs ds) {p : List Char} (hp : p ⊆ headingMark) :
    p.isPrefixOf ds = p.isPrefixOf cs := by
  induction h generalizing p with
  | nil => rfl
  | kept c _ ih =>
    cases p with
    | nil => simp
    | cons q p =>
      rw [List.isPrefixOf_cons_cons, List.isPrefixOf_cons_cons, ih (List.subset_of_cons_subset hp)]
  | @changed x _ _ _ _ hx _ _ _ _ =>
    cases p with
    | nil => simp
    | cons q p =>
      -- a change is behind a character that the mark does not have, so the mark is decided before
      -- it
      have hq : (q == x) = false :=
        beq_false_of_ne fun heq => hx (List.mem_cons_of_mem _ (heq ▸ hp List.mem_cons_self))
      rw [List.isPrefixOf_cons_cons, List.isPrefixOf_cons_cons, hq, Bool.false_and, Bool.false_and]

/-- Retouching a text does not change what its lines begin with. -/
theorem openings_eq (h : Retouched cs ds) : openings ds = openings cs := by
  have hbelow : openingsBelow ds = openingsBelow cs := by
    induction h with
    | nil => rfl
    | kept c h ih => rw [openingsBelow, openingsBelow, h.isPrefixOf (List.Subset.refl _), ih]
    | changed hx hgone hput _ ih =>
      have hline : ¬ _ = '\n' := fun heq => hx (heq ▸ List.mem_cons_self)
      rw [openingsBelow, openingsBelow, if_neg hline, if_neg hline,
        openingsBelow_append_of_not_mem hgone, openingsBelow_append_of_not_mem hput, ih]
  rw [openings, openings, h.isPrefixOf (List.Subset.refl _), hbelow]

end Retouched

/-- What is left when the rest of a stretch is passed over, counted from its second character. -/
theorem drop_eq_of_cons_eq_append {front rest : List Char} (h : c :: cs = front ++ rest)
    (hfront : front ≠ []) : cs.drop (front.length - 1) = rest := by
  cases front with
  | nil => exact absurd rfl hfront
  | cons d front =>
    rw [List.cons_append] at h
    rw [(List.cons.inj h).2, List.length_cons, Nat.add_sub_cancel, List.drop_left]

/-! ### Links written out -/

/-- What is put in behind a text that closes a bracket retouches only. The number counts what is
still to be passed over of the last occurrence. -/
theorem retouched_replaceFrom (mention : List Char) {put : List Char} (hput : '\n' ∉ put) (n : Nat)
    (cs : List Char) :
    Retouched (cs.drop n)
      (Text.replaceFrom (mention ++ [']']) (mention ++ [']'] ++ put) n cs) := by
  induction cs generalizing n with
  | nil =>
    rw [List.drop_nil]
    cases n <;> exact .nil
  | cons c cs ih =>
    cases n with
    | succ n => exact ih n
    | zero =>
      rw [Text.replaceFrom]
      split
      · next hmention =>
        rw [List.isPrefixOf_iff_prefix] at hmention
        obtain ⟨rest, hrest⟩ := hmention
        -- the occurrence is passed over, and the induction goes on behind it
        have hdrop : cs.drop ((mention ++ [']']).length - 1) = rest :=
          drop_eq_of_cons_eq_append hrest.symm (by simp)
        have htail := ih ((mention ++ [']']).length - 1)
        rw [hdrop] at htail
        have hchanged : Retouched (']' :: ([] ++ rest)) (']' :: (put ++ _)) :=
          .changed (by decide) List.not_mem_nil hput htail
        rw [List.drop_zero, ← hrest, List.append_assoc, List.append_assoc, List.append_assoc]
        exact .append_left mention hchanged
      · exact .kept c (ih 0)

/-- Writing out a link retouches only: its destination stands behind the bracket that closes its
name. -/
theorem retouched_writeOut (cs : List Char) {d : LinkDefinition} (hd : '\n' ∉ d.destination) :
    Retouched cs (writeOut cs d) := by
  have hput : '\n' ∉ '(' :: d.destination ++ [')'] := by simp [hd]
  have hretouched := retouched_replaceFrom ('[' :: d.name) hput 0 cs
  rwa [List.drop_zero, ← List.append_assoc] at hretouched

/-! ### Destinations taken away -/

/-- What is enclosed stands on one line and goes up to the first character that closes it. -/
theorem eq_of_enclosed?_eq_some {opening closing : Char} {rest : List Char}
    (h : enclosed? opening closing cs = some (inside, rest)) :
    cs = opening :: (inside ++ closing :: rest) ∧ '\n' ∉ inside ∧ closing ∉ inside := by
  cases cs with
  | nil => cases h
  | cons c cs =>
    rw [enclosed?] at h
    split at h
    · next hc =>
      have hsplit := List.takeWhile_append_dropWhile
        (p := fun d => d != closing && d != '\n') (l := cs)
      have hline : '\n' ∉ cs.takeWhile fun d => d != closing && d != '\n' := fun hmem => by
        simpa using List.mem_takeWhile_imp hmem
      have hopen : closing ∉ cs.takeWhile fun d => d != closing && d != '\n' := fun hmem => by
        simpa using List.mem_takeWhile_imp hmem
      dsimp only at h
      -- from here on only this matters: the part that was taken holds neither the closing character
      -- nor a line end
      generalize (cs.takeWhile fun d => d != closing && d != '\n') = taken at h hsplit hline hopen
      rw [← hsplit, List.drop_left] at h
      split at h
      · next d after hafter =>
        split at h
        · next hclosing =>
          cases h
          rw [hafter, hclosing.1] at hsplit
          exact ⟨by rw [hc, hsplit], hline, hopen⟩
        · cases h
      · cases h
    · cases h

/-- A doubled link is a text that closes a parenthesis, and its second destination is on the same
line. -/
theorem eq_of_doubled?_eq_some {link : List Char} {length : Nat}
    (h : doubled? cs = some (link, length)) :
    ∃ shared gone rest, link = shared ++ [')'] ∧ cs = shared ++ ')' :: (gone ++ rest) ∧
      '\n' ∉ gone ∧ length = (shared ++ ')' :: gone).length := by
  rw [doubled?] at h
  obtain ⟨⟨name, afterName⟩, hname, h⟩ := Option.bind_eq_some_iff.mp h
  obtain ⟨⟨first, afterFirst⟩, hfirst, h⟩ := Option.bind_eq_some_iff.mp h
  obtain ⟨⟨second, rest⟩, hsecond, h⟩ := Option.bind_eq_some_iff.mp h
  obtain ⟨rfl, rfl⟩ := Prod.mk.inj (Option.some.inj h)
  obtain ⟨hcs, -⟩ := eq_of_enclosed?_eq_some hname
  obtain ⟨hrest, -⟩ := eq_of_enclosed?_eq_some hfirst
  obtain ⟨hlast, hline, -⟩ := eq_of_enclosed?_eq_some hsecond
  refine ⟨'[' :: name ++ ']' :: '(' :: first, '(' :: second ++ [')'], rest, ?_, ?_, ?_, ?_⟩
  · simp
  · rw [hcs, hrest, hlast]
    simp
  · simp [hline]
  · simp only [List.length_append, List.length_cons, List.length_nil]
    omega

/-- Taking away second destinations retouches only: what goes stands behind the parenthesis that
closes the first one. -/
theorem retouched_dropSecond (n : Nat) (cs : List Char) :
    Retouched (cs.drop n) (dropSecond n cs) := by
  induction cs generalizing n with
  | nil =>
    rw [List.drop_nil]
    cases n <;> exact .nil
  | cons c cs ih =>
    cases n with
    | succ n => exact ih n
    | zero =>
      rw [dropSecond]
      split
      · next link length hlink =>
        obtain ⟨shared, gone, rest, rfl, hcs, hline, hlength⟩ := eq_of_doubled?_eq_some hlink
        have hassoc : c :: cs = (shared ++ ')' :: gone) ++ rest := by simp [hcs]
        -- the whole link is passed over, so a third destination stays
        have hdrop : cs.drop (length - 1) = rest := by
          rw [hlength]
          exact drop_eq_of_cons_eq_append hassoc (by simp)
        have htail := ih (length - 1)
        rw [hdrop] at htail
        have hchanged : Retouched (')' :: (gone ++ rest)) (')' :: ([] ++ _)) :=
          .changed (by decide) hline List.not_mem_nil htail
        rw [List.drop_zero, hcs, List.append_assoc]
        exact .append_left shared hchanged
      · exact .kept c (ih 0)

/-! ### Destinations -/

/-- A destination is on one line. -/
theorem newline_not_mem_of_destination? {destination : List Char} {length : Nat}
    (h : destination? cs = some (destination, length)) : '\n' ∉ destination := by
  rw [destination?] at h
  dsimp only at h
  split at h
  · split at h
    · cases h
    · cases h
      exact List.not_mem_nil
  · cases h
    intro hmem
    simpa using List.mem_takeWhile_imp (Text.mem_of_mem_trimmed hmem)

/-- A definition names its destination on its own line, wherever the name before it ends. -/
theorem newline_not_mem_of_definitionAfter? {name : List Char} {d : LinkDefinition}
    (h : definitionAfter? name cs = some d) : '\n' ∉ d.destination := by
  induction cs generalizing name with
  | nil => cases h
  | cons c cs ih =>
    unfold definitionAfter? at h
    dsimp only at h
    split at h
    · next hhere =>
      split at hhere
      · split at hhere
        · cases hhere
        · obtain ⟨⟨destination, length⟩, hdestination, heq⟩ := Option.map_eq_some_iff.mp hhere
          rw [← Option.some.inj h, ← heq]
          exact newline_not_mem_of_destination? hdestination
      · cases hhere
    · split at h
      · cases h
      · exact ih h

/-- This holds of all links that a changelog defines. -/
theorem newline_not_mem_of_mem_definitionsFrom {n : Nat} {atLine : Bool} {d : LinkDefinition}
    (h : d ∈ definitionsFrom n atLine cs) : '\n' ∉ d.destination := by
  induction cs generalizing n atLine with
  | nil =>
    cases n <;> exact absurd h List.not_mem_nil
  | cons c cs ih =>
    cases n with
    | succ n => exact ih h
    | zero =>
      rw [definitionsFrom] at h
      split at h
      · next found hfound =>
        rcases List.mem_cons.mp h with rfl | h
        · split at hfound
          · rw [definition?.eq_def] at hfound
            split at hfound
            · exact newline_not_mem_of_definitionAfter? hfound
            · cases hfound
          · cases hfound
        · exact ih h
      · exact ih h

/-- Whatever links are written out, what the lines begin with stays the same. -/
theorem openings_foldl_writeOut {definitions : List LinkDefinition}
    (h : ∀ d ∈ definitions, '\n' ∉ d.destination) (cs : List Char) :
    openings (definitions.foldl writeOut cs) = openings cs := by
  induction definitions generalizing cs with
  | nil => rfl
  | cons d rest ih =>
    rw [List.forall_mem_cons] at h
    rw [List.foldl_cons, ih h.2, (retouched_writeOut cs h.1).openings_eq]

end ReleasePipeline.Build.Changelog
