/-
The grammar of a placeholder, and that it is read as the grammar says.

The reader takes the longest stretch of each class and never goes back. That loses nothing,
because what may follow a stretch is never in its class: blanks, the dot, identifiers and the
closing brace have no character in common (the section on classes). So a placeholder is read
off the front of a text exactly when the text begins with one (`readPlaceholder?_eq_some_iff`),
and no text begins with two.
-/
import Mathlib.Data.List.TakeDrop
import Mathlib.Data.List.TakeWhile
import ReleasePipeline.Template.Placeholder

set_option autoImplicit false

namespace ReleasePipeline.Template

/-! ## The grammar

The dot before a name is optional and means nothing: `{{.Version}}` and `{{Version}}` are
placeholders for the same field. The dot within a name is part of it, as in `Git.Tag`. Blanks may
stand between the braces and the name, but not within the name and not between the dot and it. -/

/-- A letter or an underscore, and then letters, digits and underscores. -/
def IsIdentifier (cs : List Char) : Prop :=
  ∃ c rest, cs = c :: rest ∧ isIdentifierStart c = true ∧ ∀ d ∈ rest, isIdentifierRest d = true

/-- One identifier, or two with a dot between them. -/
def IsFieldName (name : List Char) : Prop :=
  IsIdentifier name ∨
    ∃ first second, IsIdentifier first ∧ IsIdentifier second ∧ name = first ++ '.' :: second

/-- Only blanks. -/
def IsBlankText (cs : List Char) : Prop := ∀ c ∈ cs, Text.isBlank c = true

/-- Two opening braces, blanks, possibly a dot, a field name, blanks, two closing braces. -/
def IsPlaceholder (name spelling : List Char) : Prop :=
  ∃ before dot after, IsBlankText before ∧ (dot = [] ∨ dot = ['.']) ∧ IsFieldName name ∧
    IsBlankText after ∧ spelling = '{' :: '{' :: before ++ dot ++ name ++ after ++ ['}', '}']

/-! ## Classes

Every stretch is read by `takeWhile`. So all that has to be known of a stretch is that its
characters are of the class and that the text behind it does not go on with the class, which is what
`Breaks` says. -/

/-- What may begin an identifier may also go on with it. -/
theorem isIdentifierRest_of_start {c : Char} (h : isIdentifierStart c = true) :
    isIdentifierRest c = true := by
  simp only [isIdentifierStart, isIdentifierRest, Char.isAlphanum, Bool.or_eq_true] at h ⊢
  tauto

/-- No character of an identifier is blank. -/
theorem isBlank_eq_false_of_rest {c : Char} (h : isIdentifierRest c = true) :
    Text.isBlank c = false := by
  -- both classes are spelled out as ranges of code points, which are apart
  have hcases : (65 ≤ c.toNat ∧ c.toNat ≤ 90 ∨ 97 ≤ c.toNat ∧ c.toNat ≤ 122 ∨
      48 ≤ c.toNat ∧ c.toNat ≤ 57) ∨ c = '_' := by
    have halpha : c.isAlpha = (c.isUpper || c.isLower) := rfl
    have hisUpper : c.isUpper = decide (c.val ≥ 'A'.val ∧ c.val ≤ 'Z'.val) := rfl
    have hisLower : c.isLower = (decide (c.val ≥ 'a'.val) && decide (c.val ≤ 'z'.val)) := rfl
    simp only [isIdentifierRest, Char.isAlphanum, halpha, hisUpper, hisLower, Char.isDigit,
      Bool.or_eq_true, Bool.and_eq_true, decide_eq_true_eq, beq_iff_eq, ge_iff_le,
      UInt32.le_iff_toNat_le] at h
    have hupper : 'A'.val.toNat = 65 ∧ 'Z'.val.toNat = 90 := ⟨rfl, rfl⟩
    have hlower : 'a'.val.toNat = 97 ∧ 'z'.val.toNat = 122 := ⟨rfl, rfl⟩
    have hdigit : '0'.val.toNat = 48 ∧ '9'.val.toNat = 57 := ⟨rfl, rfl⟩
    have hc : c.val.toNat = c.toNat := rfl
    rw [hupper.1, hupper.2, hlower.1, hlower.2, hdigit.1, hdigit.2, hc] at h
    tauto
  rcases hcases with hrange | rfl
  · simp only [Text.isBlank, Bool.or_eq_false_iff, Bool.and_eq_false_iff, decide_eq_false_iff_not,
      beq_eq_false_iff_ne]
    omega
  · rfl

/-- The text does not go on with a character of the class. -/
def Breaks (p : Char → Bool) (cs : List Char) : Prop := ∀ c rest, cs = c :: rest → p c = false

/-- Whether a text goes on with a class is seen from its first character. -/
theorem breaks_cons {p : Char → Bool} {c : Char} {rest : List Char} (h : p c = false) :
    Breaks p (c :: rest) := by
  intro d rest' heq
  rw [← (List.cons.inj heq).1]
  exact h

/-- A stretch of a class is read whole if the text does not go on with the class. -/
theorem takeWhile_append_of_breaks {p : Char → Bool} {cs rest : List Char}
    (hcs : ∀ c ∈ cs, p c = true) (hrest : Breaks p rest) :
    (cs ++ rest).takeWhile p = cs ∧ (cs ++ rest).dropWhile p = rest := by
  induction cs with
  | nil =>
    cases rest with
    | nil => exact ⟨rfl, rfl⟩
    | cons c rest =>
      have hc : ¬ p c = true := by
        rw [hrest c rest rfl]
        exact Bool.false_ne_true
      exact ⟨List.takeWhile_cons_of_neg hc, List.dropWhile_cons_of_neg hc⟩
  | cons c cs ih =>
    rw [List.forall_mem_cons] at hcs
    obtain ⟨htake, hdrop⟩ := ih hcs.2
    rw [List.cons_append, List.takeWhile_cons_of_pos hcs.1, List.dropWhile_cons_of_pos hcs.1,
      htake, hdrop]
    exact ⟨rfl, rfl⟩

/-! ## Reading the parts -/

variable {cs name spelling rest : List Char}

/-- An identifier is read whole if what follows could not go on with it. -/
theorem readIdentifier?_append (h : IsIdentifier name) (hrest : Breaks isIdentifierRest rest) :
    readIdentifier? (name ++ rest) = some (name, rest) := by
  obtain ⟨c, tail, rfl, hstart, htail⟩ := h
  obtain ⟨htake, hdrop⟩ := takeWhile_append_of_breaks htail hrest
  rw [List.cons_append, readIdentifier?, if_pos hstart, htake, hdrop]

/-- What is read as an identifier is one, and nothing of the text is lost. -/
theorem isIdentifier_of_read (h : readIdentifier? cs = some (name, rest)) :
    IsIdentifier name ∧ cs = name ++ rest := by
  cases cs with
  | nil => cases h
  | cons c cs =>
    rw [readIdentifier?] at h
    split at h
    next hstart =>
      obtain ⟨rfl, rfl⟩ := Prod.mk.inj (Option.some.inj h)
      refine ⟨⟨c, _, rfl, hstart, fun d hd => List.mem_takeWhile_imp hd⟩, ?_⟩
      rw [List.cons_append, List.takeWhile_append_dropWhile]
    next => cases h

/-- A field name is read whole if neither a character of an identifier nor a dot follows. -/
theorem readFieldName?_append (h : IsFieldName name) (hrest : Breaks isIdentifierRest rest)
    (hdot : Breaks (· == '.') rest) : readFieldName? (name ++ rest) = some (name, rest) := by
  rcases h with hname | ⟨first, second, hfirst, hsecond, rfl⟩
  · rw [readFieldName?, readIdentifier?_append hname hrest]
    split
    next heq => cases heq
    next heq =>
      obtain ⟨rfl, rfl⟩ := Prod.mk.inj (Option.some.inj heq)
      -- a dot would have been the one between two identifiers
      cases hdot '.' _ rfl
    next heq =>
      obtain ⟨rfl, rfl⟩ := Prod.mk.inj (Option.some.inj heq)
      rfl
  · have hbreak : Breaks isIdentifierRest ('.' :: (second ++ rest)) := breaks_cons rfl
    have hread := readIdentifier?_append hsecond hrest
    rw [List.append_assoc, List.cons_append, readFieldName?, readIdentifier?_append hfirst hbreak]
    simp only [hread, Option.map_some]

/-- What is read as a field name is one identifier, or two with a dot between them. -/
theorem isFieldName_of_read (h : readFieldName? cs = some (name, rest)) :
    IsFieldName name ∧ cs = name ++ rest := by
  rw [readFieldName?] at h
  split at h
  next => cases h
  next _ first rest' hread =>
    obtain ⟨hfirst, rfl⟩ := isIdentifier_of_read hread
    obtain ⟨⟨second, after⟩, hread', heq⟩ := Option.map_eq_some_iff.mp h
    obtain ⟨hsecond, rfl⟩ := isIdentifier_of_read hread'
    obtain ⟨rfl, rfl⟩ := Prod.mk.inj heq
    refine ⟨.inr ⟨first, second, hfirst, hsecond, rfl⟩, ?_⟩
    rw [List.append_assoc, List.cons_append]
  next _ first rest' _ hread =>
    obtain ⟨rfl, rfl⟩ := Prod.mk.inj (Option.some.inj h)
    obtain ⟨hname, rfl⟩ := isIdentifier_of_read hread
    exact ⟨.inl hname, rfl⟩

/-- Blanks are read up to the first character that is none. -/
theorem readBlanks_append {before : List Char} (h : IsBlankText before)
    (hrest : Breaks Text.isBlank rest) : readBlanks (before ++ rest) = (before, rest) := by
  obtain ⟨htake, hdrop⟩ := takeWhile_append_of_breaks h hrest
  rw [readBlanks, List.span_eq_takeWhile_dropWhile, htake, hdrop]

/-- What is read as blanks is blank; there may be none. -/
theorem isBlankText_of_read (cs : List Char) :
    IsBlankText (readBlanks cs).1 ∧ cs = (readBlanks cs).1 ++ (readBlanks cs).2 := by
  rw [readBlanks, List.span_eq_takeWhile_dropWhile]
  exact ⟨fun c hc => List.mem_takeWhile_imp hc, (List.takeWhile_append_dropWhile).symm⟩

/-- A dot is read if there is one, and only one. -/
theorem readDot_append {dot : List Char} (h : dot = [] ∨ dot = ['.'])
    (hrest : Breaks (· == '.') rest) : readDot (dot ++ rest) = (dot, rest) := by
  rcases h with rfl | rfl
  · rw [List.nil_append, readDot.eq_2]
    rintro cs rfl
    cases hrest '.' cs rfl
  · rfl

/-- What is read is a dot or nothing. -/
theorem readDot_eq (cs : List Char) :
    ((readDot cs).1 = [] ∨ (readDot cs).1 = ['.']) ∧ cs = (readDot cs).1 ++ (readDot cs).2 := by
  unfold readDot
  split
  · exact ⟨.inr rfl, rfl⟩
  · exact ⟨.inl rfl, rfl⟩

/-! ## Reading a placeholder

In the order in which they stand, the parts are blanks, a dot or none, the name, blanks and the
braces. Each of the three facts below says that the text behind a part breaks the class before it,
also if that part is empty. -/

/-- An identifier breaks every class that it has nothing in common with. -/
theorem breaks_of_isIdentifier {p : Char → Bool}
    (hp : ∀ c, isIdentifierRest c = true → p c = false) (h : IsIdentifier name)
    (rest : List Char) : Breaks p (name ++ rest) := by
  obtain ⟨c, tail, rfl, hstart, -⟩ := h
  exact breaks_cons (hp c (isIdentifierRest_of_start hstart))

/-- A field name begins as an identifier does. -/
theorem breaks_of_isFieldName {p : Char → Bool}
    (hp : ∀ c, isIdentifierRest c = true → p c = false) (h : IsFieldName name)
    (rest : List Char) : Breaks p (name ++ rest) := by
  rcases h with hname | ⟨first, second, hfirst, -, rfl⟩
  · exact breaks_of_isIdentifier hp hname rest
  · rw [List.append_assoc]
    exact breaks_of_isIdentifier hp hfirst _

/-- A dot is no part of an identifier. -/
theorem not_dot_of_rest (c : Char) (h : isIdentifierRest c = true) : (c == '.') = false := by
  rw [beq_eq_false_iff_ne]
  rintro rfl
  exact absurd h (by decide)

/-- After blanks, a text goes on with a class only if what follows the blanks does. -/
theorem breaks_blanks_append {p : Char → Bool} {before : List Char} (h : IsBlankText before)
    (hp : ∀ c, Text.isBlank c = true → p c = false) (hrest : Breaks p rest) :
    Breaks p (before ++ rest) := by
  cases before with
  | nil => exact hrest
  | cons c before => exact breaks_cons (hp c (h c List.mem_cons_self))

/-- A placeholder at the front of a text is read. -/
theorem readPlaceholder?_append (h : IsPlaceholder name spelling) (rest : List Char) :
    readPlaceholder? (spelling ++ rest) = some (name, spelling) := by
  obtain ⟨before, dot, after, hbefore, hdot, hname, hafter, rfl⟩ := h
  -- what follows each part is not of its class
  have hclose : ∀ p : Char → Bool, p '}' = false → Breaks p ('}' :: '}' :: rest) :=
    fun p hp => breaks_cons hp
  have hblankRest : ∀ c, Text.isBlank c = true → isIdentifierRest c = false := by
    intro c hc
    by_contra hnot
    rw [isBlank_eq_false_of_rest (by simpa only [Bool.not_eq_false] using hnot)] at hc
    cases hc
  have hblankDot : ∀ c, Text.isBlank c = true → (c == '.') = false := by
    intro c hc
    rw [beq_eq_false_iff_ne]
    rintro rfl
    cases hc
  have hend := readBlanks_append hafter (hclose _ rfl)
  have hfield := readFieldName?_append hname
    (breaks_blanks_append hafter hblankRest (hclose _ rfl))
    (breaks_blanks_append hafter hblankDot (hclose _ rfl))
  have hsecond := readDot_append hdot
    (breaks_of_isFieldName not_dot_of_rest hname (after ++ '}' :: '}' :: rest))
  have hfirst : readBlanks (before ++ (dot ++ (name ++ (after ++ '}' :: '}' :: rest))))
      = (before, dot ++ (name ++ (after ++ '}' :: '}' :: rest))) := by
    refine readBlanks_append hbefore ?_
    rcases hdot with rfl | rfl
    · exact breaks_of_isFieldName (fun _ => isBlank_eq_false_of_rest) hname _
    · exact breaks_cons rfl
  simp only [List.cons_append, List.append_assoc, List.nil_append, readPlaceholder?, hfirst,
    hsecond, hfield, hend]

/-- What is read as a placeholder is one, and the text begins with it. -/
theorem isPlaceholder_of_read (h : readPlaceholder? cs = some (name, spelling)) :
    IsPlaceholder name spelling ∧ spelling <+: cs := by
  unfold readPlaceholder? at h
  split at h
  next rest =>
    obtain ⟨hbefore, hrest⟩ := isBlankText_of_read rest
    obtain ⟨hdot, hrest'⟩ := readDot_eq (readBlanks rest).2
    dsimp only at h
    split at h
    next => cases h
    next found tail hread =>
      obtain ⟨hname, htail⟩ := isFieldName_of_read hread
      obtain ⟨hafter, hend⟩ := isBlankText_of_read tail
      split at h
      next after last hblanks =>
        obtain ⟨rfl, rfl⟩ := Prod.mk.inj (Option.some.inj h)
        rw [hblanks] at hafter hend
        refine ⟨⟨_, _, _, hbefore, hdot, hname, hafter, rfl⟩, last, ?_⟩
        -- the text is what was read of it, part by part
        conv_rhs => rw [hrest, hrest', htail, hend]
        simp only [List.cons_append, List.append_assoc, List.nil_append]
      next => cases h
  next => cases h

/-- **A placeholder is read exactly where the text begins with one.** -/
theorem readPlaceholder?_eq_some_iff : readPlaceholder? cs = some (name, spelling) ↔
    IsPlaceholder name spelling ∧ spelling <+: cs := by
  refine ⟨isPlaceholder_of_read, ?_⟩
  rintro ⟨hplaceholder, rest, rfl⟩
  exact readPlaceholder?_append hplaceholder rest

end ReleasePipeline.Template
