/-
Where a section that is cut out ends.

A section goes on until a line would begin as headings do. But the character behind its heading is
taken whatever it is, so if that is the end of the line, what the next line begins with is not
looked at. What is found is looked at here from its front: the heading, which is in the contents at
the beginning of a line, then that character, then what there is up to the end of the section
(`exists_of_sectionFrom?_eq_some`). Only one line below the heading is in doubt, and it depends on
the text behind it whether it is still there once the blanks at the end are gone
(`openingsBelow_dropBlanksEnd`).
-/
import Mathlib.Data.List.Forall2
import ReleasePipeline.Proofs.Build.Changelog.Retouching
import ReleasePipeline.Proofs.Text.Caseless

set_option autoImplicit false

namespace ReleasePipeline.Build.Changelog

variable {a b cs spelled found version : List Char} {c : Char}

/-! ## Cutting out -/

/-- A section is the beginning of what is left of the contents. -/
theorem untilEnd_isPrefix (cs : List Char) : untilEnd cs <+: cs := by
  induction cs with
  | nil => exact List.prefix_rfl
  | cons c cs ih =>
    rw [untilEnd]
    split
    · exact List.nil_prefix
    · exact (List.prefix_cons_inj c).mpr ih

/-- Within a section, no line that is looked at begins as headings do. -/
theorem forall_openingsBelow_untilEnd (cs : List Char) :
    ∀ o ∈ openingsBelow (untilEnd cs), o = false := by
  induction cs with
  | nil => exact List.forall_mem_nil _
  | cons c cs ih =>
    rw [untilEnd]
    split
    · exact List.forall_mem_nil _
    · next hgoesOn =>
      rw [openingsBelow]
      split
      · next hc =>
        refine List.forall_mem_cons.mpr ⟨?_, ih⟩
        rw [hc, endsSection, Bool.or_eq_true, not_or, List.isPrefixOf_iff_prefix] at hgoesOn
        rw [Bool.eq_false_iff, ne_eq, List.isPrefixOf_iff_prefix]
        -- a heading in the part that was kept would be one in the whole, where the section would
        -- have ended
        exact fun hmark => hgoesOn.1 (hmark.trans (untilEnd_isPrefix cs))
      · exact ih

/-- The section does not end within a line. -/
theorem untilEnd_append_of_not_mem (ha : '\n' ∉ a) : untilEnd (a ++ b) = a ++ untilEnd b := by
  induction a with
  | nil => rfl
  | cons c a ih =>
    rw [List.mem_cons, not_or] at ha
    have hgoesOn : ¬ endsSection (c :: (a ++ b)) = true := by
      unfold endsSection
      split
      · next heq => exact absurd (List.cons.inj heq).1.symm ha.1
      · nofun
    rw [List.cons_append, untilEnd, if_neg hgoesOn, ih ha.2, List.cons_append]

/-- Two texts are the same but for their case. -/
def SameButForCase : List Char → List Char → Prop :=
  List.Forall₂ fun v c => Text.sameFold v c = true

/-- A heading, with the version as it is spelled there. -/
def headingFor (spelled : List Char) : List Char := headingMark ++ '[' :: spelled ++ [']']

/-- What is split off in front is the version in another spelling, and nothing is lost. -/
theorem eq_of_afterFolded?_eq_some {rest : List Char}
    (h : afterFolded? version cs = some (spelled, rest)) :
    cs = spelled ++ rest ∧ SameButForCase version spelled := by
  induction version generalizing cs spelled with
  | nil =>
    rw [afterFolded?] at h
    cases h
    exact ⟨rfl, .nil⟩
  | cons v vs ih =>
    cases cs with
    | nil => cases h
    | cons c cs =>
      rw [afterFolded?] at h
      split at h
      · next hfold =>
        obtain ⟨⟨later, after⟩, hlater, heq⟩ := Option.map_eq_some_iff.mp h
        obtain ⟨rfl, rfl⟩ := Prod.mk.inj heq
        obtain ⟨rfl, hsame⟩ := ih hlater
        exact ⟨rfl, .cons hfold hsame⟩
      · cases h

/-- A heading is read as it stands: the mark, an opening bracket, the version as it is spelled
there, and the bracket that closes it. -/
theorem eq_of_heading?_eq_some {heading rest : List Char}
    (h : heading? version cs = some (heading, rest)) :
    ∃ spelled, heading = headingFor spelled ∧ cs = heading ++ rest ∧
      SameButForCase version spelled := by
  rw [heading?] at h
  obtain ⟨afterOpening, hopening, h⟩ := Option.bind_eq_some_iff.mp h
  obtain ⟨⟨spelled, afterSpelled⟩, hspelled, h⟩ := Option.bind_eq_some_iff.mp h
  obtain ⟨afterClosing, hclosing, h⟩ := Option.bind_eq_some_iff.mp h
  obtain ⟨rfl, rfl⟩ := Prod.mk.inj (Option.some.inj h)
  rw [List.isPrefixOf?_eq_some_iff_append_eq] at hopening hclosing
  obtain ⟨hafter, hsame⟩ := eq_of_afterFolded?_eq_some hspelled
  refine ⟨spelled, by simp [headingFor], ?_, hsame⟩
  rw [← hopening, hafter, ← hclosing]
  simp

/-- The section that is found stands at the beginning of a line: its heading, one more character
whatever it is, and what follows up to the end of the section. -/
theorem exists_of_sectionFrom?_eq_some {atLine : Bool}
    (h : sectionFrom? version atLine cs = some found) :
    ∃ before spelled c rest, cs = before ++ headingFor spelled ++ c :: rest ∧
      (before = [] ∧ atLine = true ∨ before.getLast? = some '\n') ∧
      SameButForCase version spelled ∧ found = headingFor spelled ++ c :: untilEnd rest := by
  induction cs generalizing atLine with
  | nil => cases h
  | cons first cs ih =>
    rw [sectionFrom?] at h
    split at h
    · next here hhere =>
      split at hhere
      · next hatLine =>
        rw [sectionAt?] at hhere
        obtain ⟨⟨heading, rest⟩, hheading, hhere⟩ := Option.bind_eq_some_iff.mp hhere
        obtain ⟨spelled, rfl, hcs, hsame⟩ := eq_of_heading?_eq_some hheading
        -- behind the bracket there has to be one more character
        cases rest with
        | nil => cases hhere
        | cons c rest =>
          rw [← Option.some.inj h, ← Option.some.inj hhere]
          exact ⟨[], spelled, c, rest, hcs, .inl ⟨rfl, hatLine⟩, hsame, rfl⟩
      · cases hhere
    -- not here, so the search goes on behind this character
    · obtain ⟨before, spelled, c, rest, hcs, hbefore, hsame, hfound⟩ := ih h
      refine ⟨first :: before, spelled, c, rest, by rw [hcs]; rfl, .inr ?_, hsame, hfound⟩
      rcases hbefore with ⟨rfl, hfirst⟩ | hlast
      · rw [eq_of_beq hfirst]
        rfl
      · rw [List.getLast?_cons, hlast]
        rfl

/-! ### What the lines of a section begin with -/

/-- To begin as headings do, and where lines end, is no matter of case. -/
theorem isPrefixOf_of_sameButForCase {p : List Char} (hp : p ⊆ headingMark)
    (h : SameButForCase version spelled) : p.isPrefixOf spelled = p.isPrefixOf version := by
  have hlow : ∀ q ∈ headingMark, 0 < q.toNat ∧ q.toNat < 97 ∧ q.isUpper = false := by
    intro q hq
    have hq : q = '#' ∨ q = ' ' := by simpa [headingMark] using hq
    rcases hq with rfl | rfl <;> decide
  induction h generalizing p with
  | nil => rfl
  | @cons v c _ _ hfold _ ih =>
    cases p with
    | nil => simp
    | cons q p =>
      have hq : (q == c) = (q == v) := by
        rw [Bool.eq_iff_iff, beq_iff_eq, beq_iff_eq, eq_comm, eq_comm (a := q)]
        exact (Text.eq_iff_of_sameFold (hlow q (hp List.mem_cons_self)) hfold).symm
      rw [List.isPrefixOf_cons_cons, List.isPrefixOf_cons_cons, hq,
        ih (List.subset_of_cons_subset hp)]

/-- The lines of a version begin alike in whatever case it is spelled. -/
theorem openingsBelow_of_sameButForCase (h : SameButForCase version spelled) :
    openingsBelow spelled = openingsBelow version := by
  induction h with
  | nil => rfl
  | @cons v c _ _ hfold hrest ih =>
    have hline : v = '\n' ↔ c = '\n' := Text.eq_iff_of_sameFold (by decide) hfold
    rw [openingsBelow, openingsBelow, ih,
      isPrefixOf_of_sameButForCase (List.Subset.refl _) hrest]
    simp only [hline]

/-- The first line of a section begins with its heading. The lines below are those of the version,
if it has more than one, and those of what follows the bracket. -/
theorem openings_headingFor (spelled rest : List Char) :
    openings (headingFor spelled ++ rest)
      = true :: (openingsBelow spelled ++ openingsBelow rest) := by
  have hsplit : headingFor spelled ++ rest = (headingMark ++ ['[']) ++ spelled ++ ']' :: rest := by
    simp [headingFor]
  have hmark : headingMark.isPrefixOf (headingMark ++ ['['] ++ spelled) = true := by
    rw [List.isPrefixOf_iff_prefix, List.append_assoc]
    exact List.prefix_append _ _
  rw [hsplit, openings_append_cons (by decide), openings, hmark,
    openingsBelow_append_of_not_mem (by decide), openingsBelow, if_neg (by decide),
    List.cons_append]

/-- What is found below a heading that another follows at once, once blanks at the end are gone. -/
theorem headingMark_prefix_dropBlanksEnd_iff {rest : List Char} :
    headingMark <+: Text.dropBlanksEnd (untilEnd rest) ↔
      ∃ title, rest = headingMark ++ title ∧ ∃ d ∈ untilEnd title, Text.isBlank d = false := by
  have hsome : ∀ cs, Text.dropBlanksEnd cs ≠ [] ↔ ∃ d ∈ cs, Text.isBlank d = false := by
    intro cs
    rw [ne_eq, Text.dropBlanksEnd_eq_nil_iff]
    simp
  constructor
  · intro hmark
    obtain ⟨title, htitle⟩ := hmark.trans
      ((Text.dropBlanksEnd_isPrefix _).trans (untilEnd_isPrefix rest))
    refine ⟨title, htitle.symm, (hsome _).mp fun hnone => ?_⟩
    rw [← htitle, untilEnd_append_of_not_mem newline_not_mem_headingMark,
      Text.dropBlanksEnd_append, if_pos hnone] at hmark
    -- the mark itself ends in a blank
    exact absurd hmark (by decide)
  · rintro ⟨title, rfl, htitle⟩
    rw [untilEnd_append_of_not_mem newline_not_mem_headingMark, Text.dropBlanksEnd_append,
      if_neg ((hsome _).mpr htitle)]
    exact List.prefix_append _ _

/-- Of the lines below a heading only the next can begin as headings do. -/
theorem openingsBelow_dropBlanksEnd (c : Char) (rest : List Char) :
    (true ∈ openingsBelow (Text.dropBlanksEnd (c :: untilEnd rest)) ↔
      c = '\n' ∧ headingMark <+: Text.dropBlanksEnd (untilEnd rest)) ∧
    ∀ o ∈ (openingsBelow (Text.dropBlanksEnd (c :: untilEnd rest))).tail, o = false := by
  have hkept := forall_openingsBelow_of_prefix (Text.dropBlanksEnd_isPrefix (untilEnd rest))
    (forall_openingsBelow_untilEnd rest)
  have hnone : true ∉ openingsBelow (Text.dropBlanksEnd (untilEnd rest)) := fun hmem =>
    Bool.noConfusion (hkept true hmem)
  rw [Text.dropBlanksEnd_cons]
  -- with nothing but blanks behind, the character goes as well if it is a blank, as a line end is
  by_cases hrest : Text.dropBlanksEnd (untilEnd rest) = []
  · have hempty : openingsBelow (if Text.isBlank c = true then [] else [c]) = [] := by
      split
      · rfl
      · next hc =>
        have hline : c ≠ '\n' := fun heq => hc (by rw [heq]; decide)
        rw [openingsBelow, if_neg hline, openingsBelow]
    rw [if_pos hrest, hempty, hrest]
    exact ⟨iff_of_false List.not_mem_nil fun h => absurd h.2 (by decide), List.forall_mem_nil _⟩
  · rw [if_neg hrest, openingsBelow]
    -- the line that a line end begins is the only one that `untilEnd` did not see begin
    by_cases hc : c = '\n'
    · rw [if_pos hc, List.mem_cons, or_iff_left hnone, eq_comm, List.isPrefixOf_iff_prefix,
        List.tail_cons]
      exact ⟨(and_iff_right hc).symm, hkept⟩
    · rw [if_neg hc]
      exact ⟨iff_of_false hnone fun h => hc h.1, fun o ho => hkept o (List.mem_of_mem_tail ho)⟩

/-- There is one more line below for every line end. -/
theorem length_openingsBelow (cs : List Char) : (openingsBelow cs).length = cs.count '\n' := by
  induction cs with
  | nil => rfl
  | cons c cs ih =>
    rw [openingsBelow, List.count_cons, ← ih]
    by_cases hc : c = '\n'
    · simp [hc]
    · simp [hc]

/-- Trimming aside, nothing that is done to a section after it was cut out changes what its lines
begin with. -/
theorem exists_openings_of_cut? {contents version text : String}
    (h : cut? contents version = some text) :
    ∃ found, sectionFrom? version.toList true contents.toList = some found ∧
      openings text.toList = openings (Text.dropBlanksEnd found) ++ [false] := by
  rw [cut?] at h
  obtain ⟨found, hfound, h⟩ := Option.bind_eq_some_iff.mp h
  refine ⟨found, hfound, ?_⟩
  rw [← Option.some.inj h, String.toList_ofList, openings_append_cons newline_not_mem_headingMark]
  have hdropped : ∀ cs, openings (dropSecond 0 cs) = openings cs := fun cs =>
    (retouched_dropSecond 0 cs).openings_eq
  rw [hdropped]
  congr 1
  split
  · exact openings_foldl_writeOut (fun d => newline_not_mem_of_mem_definitionsFrom) _
  · rfl

/-- A heading ends in a bracket, so blanks go at most up to there. -/
theorem dropBlanksEnd_headingFor (spelled rest : List Char) :
    Text.dropBlanksEnd (headingFor spelled ++ rest)
      = headingFor spelled ++ Text.dropBlanksEnd rest := by
  have hsplit : ∀ cs, headingFor spelled ++ cs = (headingMark ++ '[' :: spelled) ++ ']' :: cs :=
    fun cs => by simp [headingFor]
  rw [hsplit, Text.dropBlanksEnd_append_cons _ _ (by decide), ← hsplit]

/-- Some line begins as headings do if that is told of one. -/
theorem exists_headingMark_prefix_iff {lines : List (List Char)} :
    (∃ line ∈ lines, headingMark <+: line) ↔ true ∈ lines.map headingMark.isPrefixOf := by
  simp only [List.mem_map, List.isPrefixOf_iff_prefix]

/-- **The lines of a cut section.** If a section is returned, it is from the contents: at the
beginning of a line there is a heading for the version, upper and lower case being the same, and one
more character. The heading has as many lines as the version, mostly one, and these begin as the
version has it. Below the heading, no line but the first begins as headings do. The first one does
exactly if the character behind the heading is the end of the line, the next line begins as headings
do, and there is anything else than blanks behind that in what would be its section. So a section
goes on into the next one exactly if that follows its heading at once. -/
theorem lines_of_cut? {contents version text : String} (h : cut? contents version = some text) :
    ∃ before spelled c rest,
      contents.toList = before ++ headingFor spelled ++ c :: rest ∧
      (before = [] ∨ before.getLast? = some '\n') ∧
      SameButForCase version.toList spelled ∧
      let lines := List.splitOn '\n' text.toList
      let height := version.toList.count '\n' + 1
      (lines.take height).map headingMark.isPrefixOf
        = true :: (List.splitOn '\n' version.toList).tail.map headingMark.isPrefixOf ∧
      ((∃ line ∈ lines.drop height, headingMark <+: line) ↔
        c = '\n' ∧ ∃ title, rest = headingMark ++ title ∧
          ∃ d ∈ untilEnd title, Text.isBlank d = false) ∧
      ∀ line ∈ lines.drop (height + 1), ¬ headingMark <+: line := by
  obtain ⟨found, hfound, hopenings⟩ := exists_openings_of_cut? h
  obtain ⟨before, spelled, c, rest, hcontents, hbefore, hsame, rfl⟩ :=
    exists_of_sectionFrom?_eq_some hfound
  refine ⟨before, spelled, c, rest, hcontents, hbefore.imp And.left id, hsame, ?_⟩
  intro lines height
  obtain ⟨hfirst, hlater⟩ := openingsBelow_dropBlanksEnd c rest
  rw [headingMark_prefix_dropBlanksEnd_iff] at hfirst
  -- heading and body are told apart by the lines of the version
  have hlines : lines.map headingMark.isPrefixOf = (true :: openingsBelow version.toList) ++
      (openingsBelow (Text.dropBlanksEnd (c :: untilEnd rest)) ++ [false]) := by
    rw [map_splitOn, hopenings, dropBlanksEnd_headingFor, openings_headingFor,
      openingsBelow_of_sameButForCase hsame, List.cons_append, List.cons_append, List.append_assoc]
  -- from here on it does not matter what the body is, only how its lines begin
  generalize openingsBelow (Text.dropBlanksEnd (c :: untilEnd rest)) = below at hfirst hlater hlines
  have hversion : (List.splitOn '\n' version.toList).tail.map headingMark.isPrefixOf
      = openingsBelow version.toList := by
    rw [List.map_tail, map_splitOn, openings, List.tail_cons]
  have hheight : (true :: openingsBelow version.toList).length = height :=
    congrArg (· + 1) (length_openingsBelow _)
  have hbelow : (lines.drop height).map headingMark.isPrefixOf = below ++ [false] := by
    rw [List.map_drop, hlines, List.drop_left' hheight]
  refine ⟨?_, ?_, fun line hline hmark => ?_⟩
  · rw [hversion, List.map_take, hlines, List.take_left' hheight]
  · rw [exists_headingMark_prefix_iff, hbelow, ← hfirst, List.mem_append]
    simp
  · have htrue : true ∈ (lines.drop (height + 1)).map headingMark.isPrefixOf :=
      exists_headingMark_prefix_iff.mp ⟨line, hline, hmark⟩
    rw [← List.tail_drop, List.map_tail, hbelow] at htrue
    cases below with
    | nil => cases htrue
    | cons o below =>
      rw [List.cons_append, List.tail_cons, List.mem_append] at htrue
      rcases htrue with htrue | htrue
      · exact Bool.noConfusion (hlater true htrue)
      · simp at htrue

/-- A changelog in which a section is empty. -/
def emptySection : String :=
  "# News\n\n## [v1.1.0]\n## [v1.0.0]\n\n- see [docs]\n\n## [v0.9.0]\n\n- old\n\n[docs]: d\n"

/-- The section as it is cut out, with the next one, whose link is written out. -/
def emptySectionCut : String := "## [v1.1.0]\n## [v1.0.0]\n\n- see [docs](d)\n"

/-- The heading is one line, and from the second line below it on none begins as headings do. -/
theorem emptySection_lines :
    cut? emptySection "V1.1.0" = some emptySectionCut ∧
      ((List.splitOn '\n' emptySectionCut.toList).take 1).map headingMark.isPrefixOf = [true] ∧
      ∀ line ∈ (List.splitOn '\n' emptySectionCut.toList).drop 2, ¬ headingMark <+: line := by
  have hcut : cut? emptySection "V1.1.0" = some emptySectionCut := by decide +kernel
  obtain ⟨_, _, _, _, -, -, -, hheading, -, hlater⟩ := lines_of_cut? hcut
  have hheight : "V1.1.0".toList.count '\n' + 1 = 1 := by decide +kernel
  rw [hheight] at hheading hlater
  exact ⟨hcut, hheading, hlater⟩

/-- A section does not end at a heading that follows its own at once. -/
theorem next_section_in_cut :
    ¬ ∀ contents version text : String, cut? contents version = some text →
    ∀ line ∈ (List.splitOn '\n' text.toList).tail, ¬ headingMark <+: line := by
  intro hnone
  have hcut : cut? emptySection "V1.1.0" = some emptySectionCut := by decide +kernel
  refine hnone _ _ _ hcut "## [v1.0.0]".toList ?_ ?_
  · decide +kernel
  · decide +kernel

end ReleasePipeline.Build.Changelog
