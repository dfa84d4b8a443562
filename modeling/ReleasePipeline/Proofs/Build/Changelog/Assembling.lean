/-
Cutting takes apart what was put together.

A changelog is put together from a preamble and sections, with one line end between two sections.
As long as the sections keep to what a changelog is (`InOrder`), each of them is cut out again for
its own version, in whatever case the version is asked for, and for no other version anything is
found (`cut?_assemble`).

The search goes from line to line. A line that begins with a heading of another version is passed
over, and so is everything up to the next heading (`sectionFrom?_append`). At the right heading the
section is read up to the line end that was put between it and the next one, since nothing before it
looks like an end (`untilEnd_append`). What is done to the section afterwards is nothing here: there
are no links to be written out (`definitions_eq_nil`), and there is no second destination to be
taken away (`dropSecond_eq_self`).
-/
import ReleasePipeline.Proofs.Build.Changelog.Headings
import ReleasePipeline.Proofs.Text.Lines

set_option autoImplicit false

namespace ReleasePipeline.Build.Changelog

open Text

variable {a b cs spelled version preamble : List Char} {c : Char}

/-! ## Changelogs

The conditions of `InOrder` are there for a reason each. Without a line end behind the preamble the
first heading would stand within a line, where no heading is looked for. A bracket in a version
would close its heading too soon. Of two versions that differ in case alone, the first section would
be cut out for both. An empty body would let the heading take the line end behind it, and the next
section with it (`next_section_in_cut`). The last two conditions keep away what is done to a section
once it is found: a text `)(` inside a body may be the seam of a doubled link, and a line that
begins with a bracket ends a section or defines a link. -/

/-- A section of a changelog: the version in its heading, and what follows the bracket behind it. -/
structure Section where
  version : List Char
  body : List Char
  deriving DecidableEq

/-- The section as it is written. -/
def Section.text (s : Section) : List Char := headingFor s.version ++ s.body

/-- A preamble and sections, with a line end between two sections. -/
def assemble (preamble : List Char) (sections : List Section) : List Char :=
  preamble ++ ['\n'].intercalate (sections.map Section.text)

/-- What begins the heading of a version. -/
def versionMark : List Char := headingMark ++ ['[']

/-- The parts of a changelog are in order: they can be told apart. -/
structure InOrder (preamble : List Char) (sections : List Section) : Prop where
  /-- The first section begins a line. -/
  preamble_ends : preamble = [] ∨ preamble.getLast? = some '\n'
  preamble_lines : NoLineBegins versionMark preamble
  version_chars : ∀ s ∈ sections, ']' ∉ s.version ∧ '\n' ∉ s.version
  versions_apart : sections.Pairwise fun s t => ¬ SameButForCase s.version t.version
  body_ne_nil : ∀ s ∈ sections, s.body ≠ []
  /-- What stands behind the bracket of a heading is no line of its own. -/
  body_lines : ∀ s ∈ sections, NoneBelowBegins headingMark s.body
  body_links : ∀ s ∈ sections, ¬ [')', '('] <:+: s.body
  no_definition : NoLineBegins ['['] (assemble preamble sections)

/-! ## Headings -/

/-- What begins a heading stays on one line, so that lines can be asked whether they begin with it.
-/
theorem newline_not_mem_versionMark : '\n' ∉ versionMark := by decide

/-- Case is no matter in either direction. -/
theorem SameButForCase.symm (h : SameButForCase a b) : SameButForCase b a := by
  induction h with
  | nil => exact .nil
  | cons hfold _ ih => exact .cons (beq_iff_eq.mpr (eq_of_beq hfold).symm) ih

/-- If two versions are each the same as a third but for case, then they are the same as each other.
-/
theorem SameButForCase.trans (h : SameButForCase a b) (h' : SameButForCase b cs) :
    SameButForCase a cs := by
  induction h generalizing cs with
  | nil => exact h'
  | cons hfold _ ih =>
    cases h' with
    | cons hfold' hrest =>
      exact .cons (beq_iff_eq.mpr ((eq_of_beq hfold).trans (eq_of_beq hfold'))) (ih hrest)

/-- A character that is the same in every case stands in both texts or in neither. -/
theorem SameButForCase.mem_iff {q : Char} (h : SameButForCase a b)
    (hq : 0 < q.toNat ∧ q.toNat < 97 ∧ q.isUpper = false) : q ∈ a ↔ q ∈ b := by
  induction h with
  | nil => exact Iff.rfl
  | cons hfold _ ih =>
    rw [List.mem_cons, List.mem_cons, ih, eq_comm, eq_iff_of_sameFold hq hfold, eq_comm]

/-- A version is found in front of a text in every spelling that differs from it in case alone, and
what is returned is the spelling, not the version that was asked for. -/
theorem afterFolded?_append (h : SameButForCase version spelled) (rest : List Char) :
    afterFolded? version (spelled ++ rest) = some (spelled, rest) := by
  induction h with
  | nil => rfl
  | cons hfold _ ih =>
    rw [List.cons_append, afterFolded?, if_pos hfold, ih]
    rfl

/-- A heading is read for every version that it is for. -/
theorem heading?_headingFor (h : SameButForCase version spelled) (rest : List Char) :
    heading? version (headingFor spelled ++ rest) = some (headingFor spelled, rest) := by
  have hsplit : headingFor spelled ++ rest
      = (headingMark ++ ['[']) ++ (spelled ++ ([']'] ++ rest)) := by
    simp [headingFor]
  have hopening : (headingMark ++ ['[']).isPrefixOf? (headingFor spelled ++ rest)
      = some (spelled ++ ([']'] ++ rest)) :=
    List.isPrefixOf?_eq_some_iff_append_eq.mpr hsplit.symm
  have hclosing : [']'].isPrefixOf? ([']'] ++ rest) = some rest :=
    List.isPrefixOf?_eq_some_iff_append_eq.mpr rfl
  rw [heading?]
  simp only [hopening, afterFolded?_append h, hclosing, Option.bind_eq_bind, Option.bind_some]
  simp [headingFor]

/-- Where a text does not begin with `## [`, there is no heading, for whatever version. -/
theorem heading?_eq_none_of_not_prefix (h : ¬ versionMark <+: cs) : heading? version cs = none := by
  cases hheading : heading? version cs with
  | none => rfl
  | some found =>
    obtain ⟨heading, rest⟩ := found
    obtain ⟨spelled, rfl, rfl, -⟩ := eq_of_heading?_eq_some hheading
    exact absurd ⟨spelled ++ ']' :: rest, by simp [versionMark, headingFor]⟩ h

/-- And it is read for no other. -/
theorem heading?_headingFor_eq_none (hversion : ']' ∉ version) (hspelled : ']' ∉ spelled)
    (h : ¬ SameButForCase version spelled) (rest : List Char) :
    heading? version (headingFor spelled ++ rest) = none := by
  cases hheading : heading? version (headingFor spelled ++ rest) with
  | none => rfl
  | some found =>
    obtain ⟨heading, after⟩ := found
    obtain ⟨read, rfl, heq, hsame⟩ := eq_of_heading?_eq_some hheading
    -- a bracket in the spelling would be one in the version, since a bracket has no other case
    have hread : ']' ∉ read := fun hmem => hversion ((hsame.mem_iff (by decide)).mpr hmem)
    have hbrackets : spelled ++ ']' :: rest = read ++ ']' :: after := by
      simpa [headingFor] using heq
    -- both end at the first bracket
    obtain ⟨rfl, -⟩ := append_cons_inj hspelled hread hbrackets
    exact absurd hsame h

/-! ## The search

All three searches go on from one line end to the next, so each induction is on the text, with the
flag that tells whether it begins a line. -/

/-- Lines in which nothing begins that is searched for are passed over. What follows is at the end
of a line, or there is nothing more. -/
theorem sectionFrom?_append {atLine : Bool} (hb : b = [] ∨ ∃ later, b = '\n' :: later)
    (hfront : atLine = true → heading? version (a ++ b) = none)
    (hbelow : NoneBelowBegins versionMark a) :
    sectionFrom? version atLine (a ++ b) = sectionFrom? version false b := by
  induction a generalizing atLine with
  | nil =>
    rw [List.nil_append] at hfront ⊢
    cases b with
    | nil => rfl
    | cons c b =>
      cases atLine with
      | false => rfl
      | true =>
        rw [sectionFrom?, if_pos rfl, sectionAt?, hfront rfl]
        rfl
  | cons c a ih =>
    rw [noneBelowBegins_cons_iff newline_not_mem_versionMark] at hbelow
    obtain ⟨hnext, hbelow⟩ := hbelow
    have hhere : (if atLine then sectionAt? version (c :: (a ++ b)) else none) = none := by
      cases atLine with
      | false => rfl
      | true =>
        have hnone : heading? version (c :: (a ++ b)) = none := hfront rfl
        rw [if_pos rfl, sectionAt?, hnone]
        rfl
    rw [List.cons_append, sectionFrom?, hhere]
    refine ih ?_ hbelow
    intro hc
    have hmark : ¬ versionMark <+: a := hnext (eq_of_beq hc)
    refine heading?_eq_none_of_not_prefix ?_
    -- what stands behind the lines does not complete a heading, because a heading has no line end
    rcases hb with rfl | ⟨later, rfl⟩
    · rwa [List.append_nil]
    · rwa [← List.isPrefixOf_iff_prefix, isPrefixOf_append_cons newline_not_mem_versionMark,
        List.isPrefixOf_iff_prefix]

/-- What defines a link begins with a bracket. -/
theorem beginsDefinition_eq_false (h : ¬ ['['] <+: cs) : beginsDefinition cs = false := by
  unfold beginsDefinition
  split
  · next heq =>
    obtain ⟨rfl, -⟩ := eq_of_enclosed?_eq_some heq
    exact absurd (List.prefix_append ['['] _) h
  · rfl

/-- A section goes on to its last line if no line of it looks like an end. -/
theorem untilEnd_append {next : List Char} (hnext : next = [] ∨ ∃ later, next = '\n' :: later)
    (hend : untilEnd next = []) (hmark : NoneBelowBegins headingMark b)
    (hdefinition : NoneBelowBegins ['['] b) : untilEnd (b ++ next) = b := by
  have hbegins : ∀ {p cs : List Char}, '\n' ∉ p → ¬ p <+: cs → ¬ p <+: cs ++ next := by
    intro p cs hp hcs
    rcases hnext with rfl | ⟨later, rfl⟩
    · rwa [List.append_nil]
    · rwa [← List.isPrefixOf_iff_prefix, isPrefixOf_append_cons hp, List.isPrefixOf_iff_prefix]
  induction b with
  | nil => exact hend
  | cons c b ih =>
    rw [noneBelowBegins_cons_iff (by decide)] at hmark hdefinition
    have hgoesOn : ¬ endsSection (c :: (b ++ next)) = true := by
      -- only at a line end is there anything to decide
      by_cases hc : c = '\n'
      · subst hc
        have hnone : ¬ headingMark <+: b ++ next :=
          hbegins newline_not_mem_headingMark (hmark.1 rfl)
        have hplain : ¬ ['['] <+: b ++ next := hbegins (by decide) (hdefinition.1 rfl)
        rw [endsSection, beginsDefinition_eq_false hplain, Bool.or_false,
          List.isPrefixOf_iff_prefix]
        exact hnone
      · unfold endsSection
        split
        · next heq => exact absurd (List.cons.inj heq).1 hc
        · exact Bool.false_ne_true
    rw [List.cons_append, untilEnd, if_neg hgoesOn, ih hmark.2 hdefinition.2]

/-! ## Sections behind one another -/

/-- What follows a section: the others, each behind a line end. -/
def behind (sections : List Section) : List Char := sections.flatMap fun s => '\n' :: s.text

/-- The first of the sections stands behind a line end, the others behind it. -/
theorem behind_cons (s : Section) (rest : List Section) :
    behind (s :: rest) = '\n' :: (s.text ++ behind rest) := rfl

/-- Either no section follows, or a line end does: a section before it is not continued on its last
line. -/
theorem behind_eq (sections : List Section) :
    behind sections = [] ∨ ∃ later, behind sections = '\n' :: later := by
  cases sections with
  | nil => exact .inl rfl
  | cons s rest => exact .inr ⟨_, behind_cons s rest⟩

/-- The first section of a changelog has no line end in front of it, each of the others has one. -/
theorem intercalate_text_cons (s : Section) (rest : List Section) :
    ['\n'].intercalate ((s :: rest).map Section.text) = s.text ++ behind rest := by
  induction rest generalizing s with
  | nil => simp [behind]
  | cons t rest ih =>
    -- `List.intercalate` puts the separator in front of the tail only if there is a tail
    have hrest : (t :: rest).map Section.text ≠ [] := by simp
    rw [List.map_cons, List.intercalate_cons_of_ne_nil hrest, ih, behind_cons, List.append_assoc]
    rfl

/-- A section that another follows ends there. -/
theorem untilEnd_behind (sections : List Section) : untilEnd (behind sections) = [] := by
  cases sections with
  | nil => rfl
  | cons s rest =>
    have hmark : headingMark <+: s.text ++ behind rest :=
      ⟨'[' :: s.version ++ ']' :: (s.body ++ behind rest), by simp [Section.text, headingFor]⟩
    rw [behind_cons, untilEnd, if_pos]
    rw [endsSection, List.isPrefixOf_iff_prefix.mpr hmark, Bool.true_or]

/-! ## Finding a section -/

/-- A section by itself: its heading can be read, and nothing in it looks like an end. -/
structure Section.Plain (s : Section) : Prop where
  bracket : ']' ∉ s.version
  line : '\n' ∉ s.version
  body_ne_nil : s.body ≠ []
  headings : NoneBelowBegins headingMark s.body
  definitions : NoneBelowBegins ['['] s.body

/-- No line of a plain section but the first begins with `## [`. -/
theorem Section.Plain.text_lines {s : Section} (hs : s.Plain) :
    NoneBelowBegins versionMark s.text := by
  have hheading : '\n' ∉ headingFor s.version := by
    have hmark := newline_not_mem_headingMark
    simp [headingFor, hmark, hs.line]
  rw [Section.text, noneBelowBegins_append_of_not_mem newline_not_mem_versionMark hheading]
  exact hs.headings.of_prefix (List.prefix_append headingMark ['['])

/-- A section that is read at the beginning of a line is found there. -/
theorem sectionFrom?_of_sectionAt? {found : List Char} (h : sectionAt? version cs = some found) :
    sectionFrom? version true cs = some found := by
  cases cs with
  | nil =>
    -- nothing can be read from an empty text, because a heading is not empty
    rw [sectionAt?] at h
    obtain ⟨⟨heading, rest⟩, hheading, -⟩ := Option.bind_eq_some_iff.mp h
    obtain ⟨spelled, rfl, hnil, -⟩ := eq_of_heading?_eq_some hheading
    simp [headingFor] at hnil
  | cons c cs => rw [sectionFrom?, if_pos rfl, h]

/-- A section that is asked for is read from its heading to its end. -/
theorem sectionFrom?_text_of_same {s : Section} (hs : s.Plain)
    (hversion : SameButForCase version s.version) (rest : List Section) :
    sectionFrom? version true (s.text ++ behind rest) = some s.text := by
  obtain ⟨c, body, hbody⟩ := List.exists_cons_of_ne_nil hs.body_ne_nil
  have hheadings := hs.headings
  have hdefinitions := hs.definitions
  rw [hbody, noneBelowBegins_cons_iff (by decide)] at hheadings hdefinitions
  -- the character behind the bracket is taken unseen, so the end is searched for behind it
  have huntil : untilEnd (body ++ behind rest) = body :=
    untilEnd_append (behind_eq rest) (untilEnd_behind rest) hheadings.2 hdefinitions.2
  refine sectionFrom?_of_sectionAt? ?_
  rw [Section.text, hbody, List.append_assoc, List.cons_append, sectionAt?,
    heading?_headingFor hversion]
  dsimp only [Option.bind_eq_bind, Option.bind_some]
  rw [huntil]
  rfl

/-- A section that is not asked for is passed over. -/
theorem sectionFrom?_text_of_not_same {s : Section} (hs : s.Plain) (hbracket : ']' ∉ version)
    (hversion : ¬ SameButForCase version s.version) (rest : List Section) :
    sectionFrom? version true (s.text ++ behind rest)
      = sectionFrom? version false (behind rest) := by
  refine sectionFrom?_append (behind_eq rest) ?_ hs.text_lines
  intro _
  rw [Section.text, List.append_assoc]
  exact heading?_headingFor_eq_none hbracket hs.bracket hversion _

/-- Of sections for different versions, the one that is asked for is found. -/
theorem sectionFrom?_behind {s : Section} {sections : List Section}
    (hplain : ∀ t ∈ sections, t.Plain)
    (hapart : sections.Pairwise fun t u => ¬ SameButForCase t.version u.version)
    (hs : s ∈ sections) (hversion : SameButForCase version s.version) :
    sectionFrom? version false (behind sections) = some s.text := by
  induction sections with
  | nil => cases hs
  | cons t rest ih =>
    rw [List.forall_mem_cons] at hplain
    rw [List.pairwise_cons] at hapart
    -- the line end that stands in front of the first section lets the section begin a line
    have hfirst : sectionFrom? version false (behind (t :: rest))
        = sectionFrom? version true (t.text ++ behind rest) := rfl
    rw [hfirst]
    rcases List.mem_cons.mp hs with rfl | hs
    · exact sectionFrom?_text_of_same hplain.1 hversion rest
    · have hbracket : ']' ∉ version := fun hmem =>
        (hplain.2 s hs).bracket ((hversion.mem_iff (by decide)).mp hmem)
      -- two headings for one version would be headings for each other
      have hother : ¬ SameButForCase version t.version := fun hsame =>
        hapart.1 s hs (hsame.symm.trans hversion)
      rw [sectionFrom?_text_of_not_same hplain.1 hbracket hother]
      exact ih hplain.2 hapart.2 hs

/-- If none is asked for, none is found. -/
theorem sectionFrom?_behind_eq_none {sections : List Section} (hplain : ∀ t ∈ sections, t.Plain)
    (hbracket : ']' ∉ version) (hnone : ∀ t ∈ sections, ¬ SameButForCase version t.version) :
    sectionFrom? version false (behind sections) = none := by
  induction sections with
  | nil => rfl
  | cons t rest ih =>
    rw [List.forall_mem_cons] at hplain hnone
    have hfirst : sectionFrom? version false (behind (t :: rest))
        = sectionFrom? version true (t.text ++ behind rest) := rfl
    rw [hfirst, sectionFrom?_text_of_not_same hplain.1 hbracket hnone.1]
    exact ih hplain.2 hnone.2

namespace InOrder

variable {sections : List Section}

/-- A condition on the lines of all that stands behind a section is one on the bodies of the
sections there. -/
theorem noneBelowBegins_body {p : List Char} (hp : '\n' ∉ p) {rest : List Section}
    (h : NoneBelowBegins p (behind rest)) : ∀ s ∈ rest, NoneBelowBegins p s.body := by
  induction rest with
  | nil => exact List.forall_mem_nil _
  | cons s rest ih =>
    have htext : NoneBelowBegins p (s.text ++ behind rest) := h.right (a := ['\n']) hp
    have hbody : NoneBelowBegins p (headingFor s.version ++ s.body) := htext.left hp
    exact List.forall_mem_cons.mpr ⟨hbody.right hp, ih (htext.right hp)⟩

/-- Every section of a changelog that is in order is plain. Its definitions are excluded for the
changelog as a whole, and this is carried from the whole to each body. -/
theorem plain (h : InOrder preamble sections) : ∀ s ∈ sections, s.Plain := by
  have hdefinitions : ∀ s ∈ sections, NoneBelowBegins ['['] s.body := by
    have hwhole := h.no_definition.below.right (by decide)
    cases sections with
    | nil => exact List.forall_mem_nil _
    | cons s rest =>
      rw [intercalate_text_cons] at hwhole
      have hbody : NoneBelowBegins ['['] (headingFor s.version ++ s.body) := hwhole.left (by decide)
      exact List.forall_mem_cons.mpr
        ⟨hbody.right (by decide), noneBelowBegins_body (by decide) (hwhole.right (by decide))⟩
  intro s hs
  obtain ⟨hbracket, hline⟩ := h.version_chars s hs
  exact ⟨hbracket, hline, h.body_ne_nil s hs, h.body_lines s hs, hdefinitions s hs⟩

/-- Nothing is found in the preamble. -/
theorem sectionFrom?_assemble (h : InOrder preamble sections) :
    sectionFrom? version true (assemble preamble sections)
      = sectionFrom? version false (behind sections) := by
  have hsections : sectionFrom? version true (['\n'].intercalate (sections.map Section.text))
      = sectionFrom? version false (behind sections) := by
    cases sections with
    | nil => rfl
    | cons s rest =>
      rw [intercalate_text_cons]
      rfl
  -- a preamble is empty or ends in a line end, which the first heading stands behind
  rcases h.preamble_ends with rfl | hlast
  · exact hsections
  · obtain ⟨lines, rfl⟩ := List.getLast?_eq_some_iff.mp hlast
    have hlines := (noLineBegins_iff newline_not_mem_versionMark).mp h.preamble_lines
    have hbelow := (noneBelowBegins_append_newline_iff newline_not_mem_versionMark).mp hlines.2
    rw [assemble, List.append_assoc, List.singleton_append, ← hsections]
    refine (sectionFrom?_append (.inr ⟨_, rfl⟩) ?_ hbelow.1).trans rfl
    intro _
    refine heading?_eq_none_of_not_prefix ?_
    have hfront := hlines.1
    rw [← List.isPrefixOf_iff_prefix, isPrefixOf_append_cons newline_not_mem_versionMark]
      at hfront ⊢
    exact hfront

end InOrder

/-! ## What is done to a section that was found

After the search, links by name are written out with their destinations, and of two destinations of
one link the second is taken away. Neither finds anything to do in a changelog that is in order. -/

/-- No link is defined where no line begins with a bracket. -/
theorem definitionsFrom_eq_nil {atLine : Bool} (hfront : atLine = true → ¬ ['['] <+: cs)
    (hbelow : NoneBelowBegins ['['] cs) : definitionsFrom 0 atLine cs = [] := by
  induction cs generalizing atLine with
  | nil => rfl
  | cons c cs ih =>
    rw [noneBelowBegins_cons_iff (by decide)] at hbelow
    obtain ⟨hnext, hbelow⟩ := hbelow
    have hhere : (if atLine then definition? (c :: cs) else none) = none := by
      cases atLine with
      | false => rfl
      | true =>
        rw [if_pos rfl, definition?.eq_def]
        split
        · next heq =>
          rw [heq] at hfront
          exact absurd (List.prefix_append ['['] _) (hfront rfl)
        · rfl
    rw [definitionsFrom, hhere]
    exact ih (fun hc => hnext (eq_of_beq hc)) hbelow

/-- A text without lines that begin with a bracket defines no links. -/
theorem definitions_eq_nil (h : NoLineBegins ['['] cs) : definitions cs = [] := by
  obtain ⟨hfront, hbelow⟩ := (noLineBegins_iff (by decide)).mp h
  exact definitionsFrom_eq_nil (fun _ => hfront) hbelow

/-- A text keeps all its destinations if nowhere in it a doubled link begins. -/
theorem dropSecond_eq_self (h : ∀ front back, cs = front ++ back → doubled? back = none) :
    dropSecond 0 cs = cs := by
  induction cs with
  | nil => rfl
  | cons c cs ih =>
    have hcs : ∀ front back, cs = front ++ back → doubled? back = none := by
      intro front back hsplit
      exact h (c :: front) back (congrArg (c :: ·) hsplit)
    rw [dropSecond, h [] (c :: cs) rfl, ih hcs]

/-- Behind the first bracket that closes in a doubled link, one destination follows the other. -/
theorem exists_of_doubled?_eq_some {found : List Char × Nat} (h : doubled? cs = some found) :
    ∃ name first rest, cs = '[' :: name ++ ']' :: ('(' :: first ++ ')' :: '(' :: rest) ∧
      ']' ∉ name := by
  rw [doubled?] at h
  obtain ⟨⟨name, afterName⟩, hname, h⟩ := Option.bind_eq_some_iff.mp h
  obtain ⟨⟨first, afterFirst⟩, hfirst, h⟩ := Option.bind_eq_some_iff.mp h
  obtain ⟨⟨second, rest⟩, hsecond, -⟩ := Option.bind_eq_some_iff.mp h
  obtain ⟨hcs, -, hopen⟩ := eq_of_enclosed?_eq_some hname
  obtain ⟨hafterName, -⟩ := eq_of_enclosed?_eq_some hfirst
  obtain ⟨hafterFirst, -⟩ := eq_of_enclosed?_eq_some hsecond
  refine ⟨name, first, second ++ ')' :: rest, ?_, hopen⟩
  rw [hcs, hafterName, hafterFirst]
  rfl

/-- In a section, a second destination can only be in what follows the bracket of its heading. -/
theorem doubled?_eq_none {body front back : List Char} (hversion : ']' ∉ version)
    (hbody : ¬ [')', '('] <:+: body) (h : headingFor version ++ body = front ++ back) :
    doubled? back = none := by
  cases hdoubled : doubled? back with
  | none => rfl
  | some found =>
    obtain ⟨name, first, rest, rfl, hopen⟩ := exists_of_doubled?_eq_some hdoubled
    have hheading : headingFor version ++ body
        = (headingMark ++ '[' :: version) ++ ']' :: body := by
      simp [headingFor]
    have hfree : ']' ∉ headingMark ++ '[' :: version := by
      have hmark : ']' ∉ headingMark := by decide
      simp [hmark, hversion]
    refine absurd ?_ hbody
    rw [hheading] at h
    by_cases hmem : ']' ∈ front
    · -- the bracket of the heading is in front of the link
      obtain ⟨before, after, hfront, hbefore⟩ := List.eq_append_cons_of_mem hmem
      rw [hfront, List.append_assoc before, List.cons_append] at h
      obtain ⟨-, hrest⟩ := append_cons_inj hfree hbefore h
      exact ⟨after ++ '[' :: name ++ ']' :: '(' :: first, rest, by simp [hrest]⟩
    · -- it is the bracket of the link
      have hbracket : ']' ∉ front ++ '[' :: name := by simp [hmem, hopen]
      rw [← List.append_assoc front] at h
      obtain ⟨-, hrest⟩ := append_cons_inj hfree hbracket h
      exact ⟨'(' :: first, rest, by simp [hrest]⟩

/-- A section without second destinations, from a changelog that defines no links, is only rid of
the blanks at its end. -/
theorem cut?_of_sectionFrom? {contents version : String} {s : Section}
    (hfound : sectionFrom? version.toList true contents.toList = some s.text)
    (hdefinitions : definitions contents.toList = []) (hversion : ']' ∉ s.version)
    (hlinks : ¬ [')', '('] <:+: s.body) :
    cut? contents version = some (String.ofList (dropBlanksEnd s.text ++ ['\n'])) := by
  -- blanks at the end may go first, since what is left of the body is still a part of it
  have hkept : dropSecond 0 (dropBlanksEnd s.text) = dropBlanksEnd s.text := by
    refine dropSecond_eq_self ?_
    intro front back hsplit
    rw [Section.text, dropBlanksEnd_headingFor] at hsplit
    refine doubled?_eq_none hversion ?_ hsplit
    intro hinside
    exact hlinks (hinside.trans (dropBlanksEnd_isPrefix s.body).isInfix)
  rw [cut?, hfound]
  dsimp only [Option.bind_eq_bind, Option.bind_some]
  rw [hdefinitions, List.foldl_nil, ite_self, hkept]
  rfl

/-- **Cutting takes apart what was put together.** Of a changelog whose parts are in order, the
section of each version is cut out, in whatever case the version is asked for: it is the section as
it was put in, without the blanks at its end and with one line end. For a version that could stand
in a heading, but is not the version of any section, nothing is cut out. -/
theorem cut?_assemble {sections : List Section} (h : InOrder preamble sections) :
    let contents := String.ofList (assemble preamble sections)
    (∀ s ∈ sections, ∀ version : String, SameButForCase version.toList s.version →
      cut? contents version = some (String.ofList (dropBlanksEnd s.text ++ ['\n']))) ∧
    ∀ version : String, ']' ∉ version.toList → '\n' ∉ version.toList →
      (∀ s ∈ sections, ¬ SameButForCase version.toList s.version) →
      cut? contents version = none := by
  intro contents
  have hcontents : contents.toList = assemble preamble sections := String.toList_ofList
  -- the preamble is passed over, whatever version is asked for
  have hsearch (version : String) : sectionFrom? version.toList true contents.toList
      = sectionFrom? version.toList false (behind sections) := by
    rw [hcontents]
    exact h.sectionFrom?_assemble
  refine ⟨?_, ?_⟩
  · intro s hs version hversion
    refine cut?_of_sectionFrom? ?_ ?_ (h.version_chars s hs).1 (h.body_links s hs)
    · rw [hsearch]
      exact sectionFrom?_behind h.plain h.versions_apart hs hversion
    · rw [hcontents]
      exact definitions_eq_nil h.no_definition
  · intro version hbracket _ hnone
    rw [cut?, hsearch, sectionFrom?_behind_eq_none h.plain hbracket hnone]
    rfl

instance (a b : List Char) : Decidable (SameButForCase a b) :=
  inferInstanceAs (Decidable (List.Forall₂ _ a b))

/-- What stands above the sections of a changelog, with a heading that is for no version. -/
def news : List Char := "# News\n\n## About\n\nSee [below].\n".toList

/-- Sections, one of which has next to nothing in it, and one a version with signs in it. -/
def newsSections : List Section :=
  [⟨"Unreleased".toList, "\n".toList⟩,
    ⟨"v1.1.0+(a|b)".toList, " - soon\n\n### Fixed\n\n- see [docs](d)\n\n".toList⟩,
    ⟨"v1.0.0".toList, "\n\n- old\n".toList⟩]

/-- The sections are cut out again, and there is none for another version. -/
theorem newsSections_cut :
    let contents := String.ofList (assemble news newsSections)
    InOrder news newsSections ∧
      cut? contents "UNRELEASED" = some "## [Unreleased]\n" ∧
      cut? contents "V1.1.0+(A|B)"
        = some "## [v1.1.0+(a|b)] - soon\n\n### Fixed\n\n- see [docs](d)\n" ∧
      cut? contents "v1.1.0" = none := by
  intro contents
  have h : InOrder news newsSections :=
    { preamble_ends := by decide +kernel
      preamble_lines := by decide +kernel
      version_chars := by decide +kernel
      versions_apart := by decide +kernel
      body_ne_nil := by decide +kernel
      body_lines := by decide +kernel
      body_links := by decide +kernel
      no_definition := by decide +kernel }
  obtain ⟨hcut, hnone⟩ := cut?_assemble h
  refine ⟨h, ?_, ?_, ?_⟩
  · exact (hcut ⟨"Unreleased".toList, "\n".toList⟩
      (by decide) "UNRELEASED" (by decide +kernel)).trans (by decide +kernel)
  · exact (hcut ⟨"v1.1.0+(a|b)".toList, " - soon\n\n### Fixed\n\n- see [docs](d)\n\n".toList⟩
      (by decide) "V1.1.0+(A|B)" (by decide +kernel)).trans (by decide +kernel)
  · exact hnone "v1.1.0" (by decide) (by decide) (by decide +kernel)

end ReleasePipeline.Build.Changelog
