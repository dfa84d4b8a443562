/-
What the lines of a text begin with.

A mark that holds no line end is at the front of a line exactly if it is at the front of the text or
behind a line end. So whether any line begins with it can be told by going through the text
character by character (`noneBelowBegins_cons_iff`), as whoever searches a text does. The first line
is kept apart from those below it, since what comes first in a text need not be a line of its own
where the text stands behind another one.
-/
import ReleasePipeline.Proofs.Text.Parts

set_option autoImplicit false

namespace ReleasePipeline.Text

variable {p a b cs : List Char} {c : Char}

/-- No line of the text begins with the mark. -/
def NoLineBegins (p cs : List Char) : Prop := ∀ line ∈ List.splitOn '\n' cs, ¬ p <+: line

/-- No line of the text below the first begins with the mark. -/
def NoneBelowBegins (p cs : List Char) : Prop :=
  ∀ line ∈ (List.splitOn '\n' cs).tail, ¬ p <+: line

instance (p cs : List Char) : Decidable (NoLineBegins p cs) := List.decidableBAll _ _

instance (p cs : List Char) : Decidable (NoneBelowBegins p cs) := List.decidableBAll _ _

/-- An empty text is one line, and has none below it. -/
theorem noneBelowBegins_nil : NoneBelowBegins p [] := by
  intro line hline
  cases hline

/-- The first line begins as the text does. -/
theorem noLineBegins_iff (hp : '\n' ∉ p) :
    NoLineBegins p cs ↔ ¬ p <+: cs ∧ NoneBelowBegins p cs := by
  obtain ⟨line, lines, hlines⟩ := exists_splitOn_eq_cons '\n' cs
  unfold NoLineBegins NoneBelowBegins
  rw [hlines, List.forall_mem_cons, List.tail_cons, ← List.isPrefixOf_iff_prefix,
    isPrefixOf_of_splitOn_eq_cons hp hlines, List.isPrefixOf_iff_prefix]

/-- If no line begins with the mark, none below the first does. -/
theorem NoLineBegins.below (h : NoLineBegins p cs) : NoneBelowBegins p cs := by
  intro line hline
  exact h line (List.mem_of_mem_tail hline)

/-- The text behind a line end is at the front of a line. -/
theorem noneBelowBegins_cons_iff (hp : '\n' ∉ p) :
    NoneBelowBegins p (c :: cs) ↔ (c = '\n' → ¬ p <+: cs) ∧ NoneBelowBegins p cs := by
  -- behind a line end the rest of the text is a line of its own, and any other character is added
  -- to the first line
  by_cases hc : c = '\n'
  · subst hc
    have hlines : NoneBelowBegins p ('\n' :: cs) ↔ NoLineBegins p cs := by
      unfold NoneBelowBegins NoLineBegins
      rw [splitOn_cons_self, List.tail_cons]
    rw [hlines, noLineBegins_iff hp]
    simp only [forall_const]
  · obtain ⟨line, lines, hlines⟩ := exists_splitOn_eq_cons '\n' cs
    have htail : (List.splitOn '\n' (c :: cs)).tail = (List.splitOn '\n' cs).tail := by
      rw [splitOn_cons_of_ne hc hlines, hlines, List.tail_cons, List.tail_cons]
    unfold NoneBelowBegins
    rw [htail]
    exact (and_iff_right fun heq => absurd heq hc).symm

/-- What is behind a line end consists of lines. -/
theorem noneBelowBegins_append_newline_iff (hp : '\n' ∉ p) :
    NoneBelowBegins p (a ++ '\n' :: b) ↔ NoneBelowBegins p a ∧ NoLineBegins p b := by
  induction a with
  | nil =>
    rw [List.nil_append, noneBelowBegins_cons_iff hp, noLineBegins_iff hp,
      and_iff_right noneBelowBegins_nil]
    simp only [forall_const]
  | cons c a ih =>
    have hfront : p <+: a ++ '\n' :: b ↔ p <+: a := by
      rw [← List.isPrefixOf_iff_prefix, isPrefixOf_append_cons hp, List.isPrefixOf_iff_prefix]
    rw [List.cons_append, noneBelowBegins_cons_iff hp, noneBelowBegins_cons_iff hp, ih, hfront,
      and_assoc]

/-- Cutting a text off takes lines away and makes the last one shorter. -/
theorem NoneBelowBegins.left (hp : '\n' ∉ p) (h : NoneBelowBegins p (a ++ b)) :
    NoneBelowBegins p a := by
  induction a with
  | nil => exact noneBelowBegins_nil
  | cons c a ih =>
    rw [List.cons_append, noneBelowBegins_cons_iff hp] at h
    obtain ⟨hfront, hbelow⟩ := h
    rw [noneBelowBegins_cons_iff hp]
    refine ⟨?_, ih hbelow⟩
    intro hc hbegins
    exact hfront hc (hbegins.trans (List.prefix_append a b))

/-- Taking a text away at the front takes lines away. -/
theorem NoneBelowBegins.right (hp : '\n' ∉ p) (h : NoneBelowBegins p (a ++ b)) :
    NoneBelowBegins p b := by
  induction a with
  | nil => exact h
  | cons c a ih =>
    rw [List.cons_append, noneBelowBegins_cons_iff hp] at h
    exact ih h.2

/-- What is put in front of a text without a line end belongs to the first line. -/
theorem noneBelowBegins_append_of_not_mem (hp : '\n' ∉ p) (ha : '\n' ∉ a) :
    NoneBelowBegins p (a ++ b) ↔ NoneBelowBegins p b := by
  induction a with
  | nil => exact Iff.rfl
  | cons c a ih =>
    rw [List.mem_cons, not_or] at ha
    have hc : c = '\n' → ¬ p <+: a ++ b := fun heq => absurd heq.symm ha.1
    rw [List.cons_append, noneBelowBegins_cons_iff hp, and_iff_right hc, ih ha.2]

/-- A longer mark is at the front of fewer lines. -/
theorem NoneBelowBegins.of_prefix {q : List Char} (hpq : p <+: q) (h : NoneBelowBegins p cs) :
    NoneBelowBegins q cs := by
  intro line hline hbegins
  exact h line hline (hpq.trans hbegins)

end ReleasePipeline.Text
