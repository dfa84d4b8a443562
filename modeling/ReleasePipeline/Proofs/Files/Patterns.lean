/-
What a pattern for the names of files stands for.

A pattern such as `README*` is read into tokens, and a name fits if it can be cut into pieces, one
for each token (`Pattern.Describes`). Which way to cut it is not told: with two stars in a pattern
there may be many. The program does not try them out but fills a row of answers, one for each end
of the name, from the last token to the first. That this comes to the same is shown in two steps:
the row holds what a search through all ways would say (`Pattern.matchRow_eq`), and the search
finds a way exactly if there is one (`Pattern.matches?_eq_true_iff`).

Then the tree of files comes in. A pattern of one step that has wildcards stands for the names in
the working directory that fit, each as a path of its own (`Files.mem_glob_of_single`); and one
that is some plain text and a star stands for the names that begin with that text
(`Files.mem_glob_star`).
-/
import ReleasePipeline.Files.Pattern
import ReleasePipeline.Proofs.Text.Parts

set_option autoImplicit false

namespace ReleasePipeline

namespace Pattern

/-! ## Names that fit -/

/-- A text can be cut into pieces, one for each token: a single character that passes the test of
its token, or any text where the token asks nothing. -/
inductive Describes : List Token → List Char → Prop
  | nil : Describes [] []
  | one {t : Token} {ts : List Token} {test : Char → Bool} {c : Char} {cs : List Char}
      (hasks : t.test? = some test) (hpasses : test c = true) (hrest : Describes ts cs) :
      Describes (t :: ts) (c :: cs)
  | any {t : Token} {ts : List Token} (front : List Char) {back : List Char}
      (hasks : t.test? = none) (hrest : Describes ts back) : Describes (t :: ts) (front ++ back)

/-! ### The search through all ways -/

/-- A test holds for the text or for some end of it. -/
def someEnd (test : List Char → Bool) : List Char → Bool
  | [] => test []
  | c :: cs => test (c :: cs) || someEnd test cs

/-- A text is one character that passes a test, and a rest that passes another. -/
def firstAndRest (test : Char → Bool) (rest : List Char → Bool) : List Char → Bool
  | [] => false
  | c :: cs => test c && rest cs

/-- The tokens match the whole text. -/
def matches? : List Token → List Char → Bool
  | [], cs => cs.isEmpty
  | t :: rest, cs =>
    match t.test? with
    | some test => firstAndRest test (matches? rest) cs
    | none => someEnd (matches? rest) cs

variable {t : Token} {ts tokens : List Token} {cs : List Char}

/-- A token for one character asks the first character and leaves the rest to the other tokens. -/
theorem matches?_cons_one {test : Char → Bool} (hasks : t.test? = some test) :
    matches? (t :: ts) cs = firstAndRest test (matches? ts) cs := by
  rw [matches?, hasks]

/-- A star takes any number of characters, and what is left of the text has to match the other
tokens. -/
theorem matches?_cons_any (hasks : t.test? = none) :
    matches? (t :: ts) cs = someEnd (matches? ts) cs := by
  rw [matches?, hasks]

/-- Some end of a text passes a test if the text can be cut so that what is behind the cut passes.
-/
theorem someEnd_eq_true_iff {test : List Char → Bool} :
    someEnd test cs = true ↔ ∃ front back, cs = front ++ back ∧ test back = true := by
  induction cs with
  | nil =>
    constructor
    · exact fun h => ⟨[], [], rfl, h⟩
    · rintro ⟨front, back, hcut, h⟩
      obtain ⟨-, rfl⟩ := List.append_eq_nil_iff.mp hcut.symm
      exact h
  | cons c cs ih =>
    rw [someEnd, Bool.or_eq_true, ih]
    constructor
    · rintro (h | ⟨front, back, rfl, h⟩)
      · exact ⟨[], c :: cs, rfl, h⟩
      · exact ⟨c :: front, back, rfl, h⟩
    · rintro ⟨front, back, hcut, h⟩
      cases front with
      | nil =>
        rw [List.nil_append] at hcut
        exact .inl (hcut ▸ h)
      | cons d front =>
        rw [List.cons_append, List.cons.injEq] at hcut
        exact .inr ⟨front, back, hcut.2, h⟩

/-- What is matched is described, token by token. -/
theorem describes_of_matches? (h : matches? ts cs = true) : Describes ts cs := by
  induction ts generalizing cs with
  | nil =>
    obtain rfl := List.isEmpty_iff.mp h
    exact .nil
  | cons t ts ih =>
    cases hasks : t.test? with
    | some test =>
      rw [matches?_cons_one hasks] at h
      cases cs with
      | nil => cases h
      | cons c cs =>
        obtain ⟨hpasses, hrest⟩ := Bool.and_eq_true_iff.mp h
        exact .one hasks hpasses (ih hrest)
    | none =>
      rw [matches?_cons_any hasks] at h
      obtain ⟨front, back, rfl, hrest⟩ := someEnd_eq_true_iff.mp h
      exact .any front hasks (ih hrest)

/-- The search finds a way exactly if there is one. -/
theorem matches?_eq_true_iff : matches? ts cs = true ↔ Describes ts cs := by
  refine ⟨describes_of_matches?, fun h => ?_⟩
  induction h with
  | nil => rfl
  | one hasks hpasses _ ih =>
    rw [matches?_cons_one hasks, firstAndRest, hpasses, ih]
    rfl
  | any front hasks _ ih =>
    rw [matches?_cons_any hasks]
    exact someEnd_eq_true_iff.mpr ⟨front, _, rfl, ih⟩

/-! ### The row of answers -/

/-- The ends of a text are the text itself and the ends behind its first character. -/
theorem ends_eq_cons (cs : List Char) : ends cs = cs :: (ends cs).tail := by cases cs <;> rfl

/-- One token more for one character: each end is asked for its first character, and the row for
the rest of it. -/
theorem rowBeforeOne_map_ends (test : Char → Bool) (rest : List Char → Bool) :
    ∀ cs, rowBeforeOne test cs ((ends cs).map rest) = (ends cs).map (firstAndRest test rest)
  | [] => rfl
  | c :: cs => by
    have ih := rowBeforeOne_map_ends test rest cs
    rw [ends_eq_cons cs] at ih
    simp only [ends, List.map_cons]
    rw [ends_eq_cons cs]
    simp only [List.map_cons, rowBeforeOne, firstAndRest] at ih ⊢
    rw [ih]

/-- One token more for any text: an end is matched if it or one of its own ends was. -/
theorem rowBeforeAny_map_ends (test : List Char → Bool) :
    ∀ cs, rowBeforeAny ((ends cs).map test) = (ends cs).map (someEnd test)
  | [] => rfl
  | c :: cs => by
    have ih := rowBeforeAny_map_ends test cs
    simp only [ends, List.map_cons, rowBeforeAny, ih]
    rw [ends_eq_cons cs]
    rfl

/-- The row holds the answer of the search for each end of the text. -/
theorem matchRow_eq (cs : List Char) :
    ∀ tokens, matchRow cs tokens = (ends cs).map (matches? tokens)
  | [] => rfl
  | t :: rest => by
    have hm : matches? (t :: rest) = fun cs => match t.test? with
      | some test => firstAndRest test (matches? rest) cs
      | none => someEnd (matches? rest) cs := rfl
    rw [matchRow, matchRow_eq cs rest, hm]
    cases t.test? with
    | some test => exact rowBeforeOne_map_ends test (matches? rest) cs
    | none => exact rowBeforeAny_map_ends (matches? rest) cs

/-- The sweep finds what the search does: the whole text is the first of its ends. -/
theorem sweep_eq (tokens : List Token) (cs : List Char) : sweep tokens cs = matches? tokens cs := by
  rw [sweep, matchRow_eq, ends_eq_cons]
  rfl

end Pattern

/-- **A name fits a step if the tokens of the step describe it.** -/
theorem PatternStep.fits_name_iff {tokens : List Pattern.Token} {name : String} :
    (PatternStep.name tokens).fits name = true ↔ Pattern.Describes tokens name.toList := by
  rw [PatternStep.fits, Pattern.sweep_eq, Pattern.matches?_eq_true_iff]

namespace Pattern

/-! ## Plain text and a star -/

/-- The characters stand for themselves: none of them is a wildcard, and none cuts the pattern into
steps. -/
def IsPlain (front : List Char) : Prop := ∀ c ∈ front, c ≠ '?' ∧ c ≠ '*' ∧ c ≠ '[' ∧ c ≠ '/'

instance (front : List Char) : Decidable (IsPlain front) := List.decidableBAll _ _

/-- The tokens of a plain text and a star. -/
def plainStar (front : List Char) : List Token := front.map .char ++ [.anyText]

/-- The names that plain text and a star describe are those that begin with the text. -/
theorem describes_plainStar_iff {front cs : List Char} :
    Describes (plainStar front) cs ↔ front <+: cs := by
  induction front generalizing cs with
  | nil =>
    refine ⟨fun _ => List.nil_prefix, fun _ => ?_⟩
    have hall : Describes [.anyText] (cs ++ []) := .any cs rfl .nil
    rwa [List.append_nil] at hall
  | cons a front ih =>
    constructor
    · intro h
      cases h with
      | one hasks hpasses hrest =>
        cases hasks
        rw [eq_of_beq hpasses]
        exact List.cons_prefix_cons.mpr ⟨rfl, ih.mp hrest⟩
      | any _ hasks => cases hasks
    · rintro ⟨back, rfl⟩
      exact .one rfl (beq_self_eq_true a) (ih.mpr (List.prefix_append front back))

/-- A character that is none of the three special ones is read as a token for itself. -/
theorem tokensFrom_cons_plain {c : Char} (hc : c ≠ '?' ∧ c ≠ '*' ∧ c ≠ '[') (position : Nat)
    (previous : Option Char) (cs : List Char) : tokensFrom position previous (c :: cs)
      = (tokensFrom (position + 1) (some c) cs).map (.char c :: ·) := by
  obtain ⟨hquestion, hstar, hbracket⟩ := hc
  rw [tokensFrom]
  · exact hquestion
  · exact fun _ h => absurd h hstar
  · exact fun _ h => absurd h hstar
  · exact hstar
  · exact hbracket

/-- A plain text with a star behind it is read as these characters and this star. -/
theorem tokensFrom_plainStar {front : List Char} (hplain : IsPlain front) (position : Nat)
    (previous : Option Char) :
    tokensFrom position previous (front ++ ['*']) = .ok (plainStar front) := by
  induction front generalizing position previous with
  | nil => simp [tokensFrom, plainStar, Except.map]
  | cons c front ih =>
    obtain ⟨⟨hquestion, hstar, hbracket, -⟩, hrest⟩ := List.forall_mem_cons.mp hplain
    rw [List.cons_append, tokensFrom_cons_plain ⟨hquestion, hstar, hbracket⟩, ih hrest]
    rfl

/-- What plain text and a star are read as: one step, from the working directory. -/
theorem parse_star {front : String} (hplain : IsPlain front.toList) :
    Pattern.parse (front ++ "*") = .ok ⟨false, [.name (plainStar front.toList)], false⟩ := by
  have htext : (front ++ "*").toList = front.toList ++ ['*'] := String.toList_append
  have htokens : tokens (front.toList ++ ['*']) = .ok (plainStar front.toList) :=
    tokensFrom_plainStar hplain 0 none
  have hslash : '/' ∉ front.toList ++ ['*'] := by
    rw [List.mem_append, List.mem_singleton]
    rintro (hmem | hstar)
    · exact (hplain _ hmem).2.2.2 rfl
    · exact absurd hstar (by decide)
  have hfirst : ((front.toList ++ ['*']).head? == some '/') = false := by
    rw [beq_eq_false_iff_ne]
    exact fun h => hslash (List.mem_of_head? h)
  have hne : front.toList ++ ['*'] ≠ [] := List.append_ne_nil_of_right_ne_nil _ (by decide)
  -- the text is not cut, and what is read of it is no step for any number of directories
  have hspellings : spellings (front.toList ++ ['*']) = [front.toList ++ ['*']] := by
    rw [spellings, Text.splitOn_eq, List.splitOn_eq_singleton hslash]
    exact if_neg fun hnone => hne (Option.some.inj hnone)
  have hstep : PatternStep.ofTokens (plainStar front.toList) = .name (plainStar front.toList) := by
    cases front.toList <;> rfl
  have hread : PatternStep.ofTokens <$> Except.ok (plainStar front.toList)
      = Except.ok (ε := PatternError) (.name (plainStar front.toList)) := congrArg Except.ok hstep
  have hempty : (front.toList ++ ['*']).isEmpty = false := by
    rw [List.isEmpty_eq_false_iff]
    exact hne
  unfold parse
  simp only [htext, htokens, hfirst, hspellings, hempty, List.getLast?_concat, Bool.false_eq_true,
    if_false, List.mapM_cons, List.mapM_nil, hread]
  rfl

/-- The step has wildcards, and it is not one for the directory itself unless its text begins with
a dot. -/
theorem literal?_plainStar (front : List Char) :
    (PatternStep.name (plainStar front)).literal? = none := by
  simp [PatternStep.literal?, plainStar]

/-- A step that does not begin with a dot never stands for the directory itself or the one above it.
-/
theorem admitsDots_plainStar {front : List Char} (hdot : front.head? ≠ some '.') :
    (PatternStep.name (plainStar front)).admitsDots = false := by
  cases front with
  | nil => rfl
  | cons c cs =>
    have hc : c ≠ '.' := fun h => hdot (congrArg some h)
    simp [plainStar, PatternStep.admitsDots, hc]

end Pattern

namespace Files

variable {fs : Files}

/-- A name found in the working directory is the path that it is found by. -/
theorem inside_here (name : String) : inside ⟨"."⟩ name = ⟨name⟩ := by
  rw [inside, if_pos (by decide)]

/-- **A step with wildcards stands for the names in the working directory that it describes.** -/
theorem mem_glob_of_single {tokens : List Pattern.Token} {p : Path}
    (hwild : (PatternStep.name tokens).literal? = none)
    (hdots : (PatternStep.name tokens).admitsDots = false) :
    p ∈ fs.glob ⟨false, [.name tokens], false⟩ ↔
      ∃ name ∈ fs.namesIn ⟨"."⟩, p = ⟨name⟩ ∧ Pattern.Describes tokens name.toList := by
  have hglob : fs.glob ⟨false, [.name tokens], false⟩ = (fs.namesIn ⟨"."⟩).flatMap fun name =>
      if (PatternStep.name tokens).fits name then [⟨name⟩] else [] := by
    simp only [glob, expand, hwild, hdots, inside_here, Bool.false_and, Bool.false_eq_true,
      if_false, List.flatMap_nil, List.nil_append]
  rw [hglob, List.mem_flatMap]
  refine exists_congr fun name => and_congr_right fun _ => ?_
  rw [← PatternStep.fits_name_iff]
  split
  next hfits => simp only [hfits, List.mem_singleton, and_true]
  next hnot => simp only [hnot, List.not_mem_nil, Bool.false_eq_true, and_false]

/-- Plain text and a star stand for the names in the working directory that begin with the text. -/
theorem mem_glob_star {front : List Char} (hdot : front.head? ≠ some '.') {p : Path} :
    p ∈ fs.glob ⟨false, [.name (Pattern.plainStar front)], false⟩ ↔
      ∃ name ∈ fs.namesIn ⟨"."⟩, p = ⟨name⟩ ∧ front <+: name.toList := by
  rw [mem_glob_of_single (Pattern.literal?_plainStar front) (Pattern.admitsDots_plainStar hdot)]
  simp only [Pattern.describes_plainStar_iff]

end Files

end ReleasePipeline
