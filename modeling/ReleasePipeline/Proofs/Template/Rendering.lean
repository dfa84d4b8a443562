/-
What a template has to look like, and what is said of one that does not.

Two descriptions of a template stand side by side. A *reading* takes it apart into literals and
placeholders for fields there are; it says which templates are rendered, and to what. The
*scan* goes through any text from the left and takes a placeholder wherever one begins; it says
what the faults of the others are, and which of them comes first.

Both meet in the parts that the renderer works on: the scan gives exactly these
(`scan_iff`), and those of a reading are its literals, character by character, and its
placeholders (`pieces_text`). For the second, no placeholder may begin within a literal. Two
braces in a row could, but a literal has none, and a single brace in front of a placeholder
cannot begin one, because a third brace follows (`not_begins_of_literal`).
-/
import Mathlib.Data.List.Infix
import ReleasePipeline.Proofs.Template.Grammar
import ReleasePipeline.Template

set_option autoImplicit false

namespace ReleasePipeline.Template

/-! ## The names of fields -/

/-- The name of a field: one of the fixed names, or `Env.` and a variable. -/
def Field.name : Field → List Char
  | .projectName => "ProjectName".toList
  | .version => "Version".toList
  | .os => "OS".toList
  | .arch => "Arch".toList
  | .archName => "ArchName".toList
  | .armVersion => "ArmVersion".toList
  | .extension => "Ext".toList
  | .algorithm => "Algo".toList
  | .archiveName => "ArchiveName".toList
  | .tag => "Git.Tag".toList
  | .reference => "Git.Ref".toList
  | .repositoryUrl => "Git.URL".toList
  | .environmentVariable var => "Env.".toList ++ var.toList

/-- What was put in front is found in front. -/
theorem isPrefixOf?_append (xs ys : List Char) : xs.isPrefixOf? (xs ++ ys) = some ys :=
  List.isPrefixOf?_eq_some_iff_append_eq.mpr rfl

/-- A field is found by its name. A name with `Env.` in front belongs to a variable, whatever
follows, and none of the fixed names begins so. -/
theorem Field.ofName?_name (f : Field) : Field.ofName? f.name = some f := by
  cases f with
  | environmentVariable var =>
    have hname : (Field.environmentVariable var).name = "Env.".toList ++ var.toList := rfl
    rw [hname]
    unfold Field.ofName?
    rw [isPrefixOf?_append]
    dsimp only
    rw [String.ofList_toList]
  | _ => rfl

/-- What is found by a name has this name. -/
theorem Field.name_eq_of_ofName? {name : List Char} {f : Field} (h : Field.ofName? name = some f) :
    f.name = name := by
  have hfixed : ∀ {s : String}, String.ofList name = s → s.toList = name := by
    rintro _ rfl
    exact String.toList_ofList
  unfold Field.ofName? at h
  split at h
  next var hbegin =>
    have hname : (Field.environmentVariable (String.ofList var)).name
        = "Env.".toList ++ (String.ofList var).toList := rfl
    rw [← Option.some.inj h, hname, String.toList_ofList (l := var)]
    exact List.append_eq_of_isPrefixOf?_eq_some hbegin
  next =>
    -- one case for each of the fixed names
    split at h <;> cases h
    all_goals exact hfixed ‹_›

/-! ## The scan -/

/-- The text begins with a placeholder. -/
def Begins (cs : List Char) : Prop := ∃ name spelling, IsPlaceholder name spelling ∧ spelling <+: cs

/-- `Scan cs ps`: going through the text from the left and taking a placeholder wherever one
begins leaves these parts: the placeholders taken, and every character outside of them. -/
inductive Scan : List Char → List Piece → Prop
  | done : Scan [] []
  | char {c : Char} {cs : List Char} {ps : List Piece} (free : ¬ Begins (c :: cs))
      (later : Scan cs ps) : Scan (c :: cs) (.char c :: ps)
  | placeholder {name spelling cs : List Char} {ps : List Piece}
      (taken : IsPlaceholder name spelling) (later : Scan cs ps) :
      Scan (spelling ++ cs) (.placeholder name spelling :: ps)

/-- To go over some characters is to cut the text behind them. -/
theorem piecesFrom_eq_drop (n : Nat) (cs : List Char) :
    piecesFrom n cs = pieces (cs.drop n) := by
  induction n generalizing cs with
  | zero => rfl
  | succ n ih =>
    cases cs with
    | nil => rfl
    | cons c cs => exact ih cs

/-- A placeholder goes on after its two braces, and not with a third one. -/
theorem IsPlaceholder.exists_eq_cons {name spelling : List Char} (h : IsPlaceholder name spelling) :
    ∃ c rest, spelling = '{' :: '{' :: c :: rest ∧ c ≠ '{' := by
  obtain ⟨before, dot, after, hbefore, hdot, hname, hafter, rfl⟩ := h
  have hidentifier : ∀ {w : List Char}, IsIdentifier w → ∃ c rest, w = c :: rest ∧ c ≠ '{' := by
    rintro _ ⟨c, rest, rfl, hstart, -⟩
    refine ⟨c, rest, rfl, ?_⟩
    rintro rfl
    exact absurd hstart (by decide)
  cases before with
  | cons b before =>
    refine ⟨b, _, rfl, ?_⟩
    rintro rfl
    exact absurd (hbefore _ List.mem_cons_self) (by decide)
  | nil =>
    rcases hdot with rfl | rfl
    · rcases hname with hname | ⟨first, second, hfirst, -, rfl⟩
      · obtain ⟨c, rest, rfl, hc⟩ := hidentifier hname
        exact ⟨c, _, rfl, hc⟩
      · obtain ⟨c, rest, rfl, hc⟩ := hidentifier hfirst
        exact ⟨c, _, rfl, hc⟩
    · exact ⟨'.', _, rfl, by decide⟩

/-- Where no placeholder begins, a character stands for itself. -/
theorem pieces_cons_of_not_begins {c : Char} {cs : List Char} (h : ¬ Begins (c :: cs)) :
    pieces (c :: cs) = .char c :: pieces cs := by
  rw [pieces, piecesFrom]
  split
  next name spelling hread =>
    exact absurd ⟨name, spelling, readPlaceholder?_eq_some_iff.mp hread⟩ h
  next => rfl

/-- Where a placeholder begins, it is a part. -/
theorem pieces_append_of_isPlaceholder {name spelling : List Char}
    (h : IsPlaceholder name spelling) (cs : List Char) :
    pieces (spelling ++ cs) = .placeholder name spelling :: pieces cs := by
  have hread := readPlaceholder?_append h cs
  obtain ⟨c, rest, rfl, -⟩ := h.exists_eq_cons
  rw [List.cons_append] at hread ⊢
  rw [pieces, piecesFrom, hread]
  dsimp only
  rw [piecesFrom_eq_drop]
  congr 2
  exact List.drop_left

/-- What the renderer cuts a text into is the scan of it. -/
theorem scan_pieces (cs : List Char) : Scan cs (pieces cs) := by
  induction hn : cs.length using Nat.strong_induction_on generalizing cs with
  | _ n ih =>
    cases cs with
    | nil => exact .done
    | cons c cs =>
      -- by induction on the length, since a placeholder takes many characters at once
      by_cases hbegins : Begins (c :: cs)
      · obtain ⟨name, spelling, hplaceholder, rest, heq⟩ := hbegins
        rw [← heq, pieces_append_of_isPlaceholder hplaceholder]
        refine .placeholder hplaceholder (ih rest.length ?_ rest rfl)
        obtain ⟨d, tail, rfl, -⟩ := hplaceholder.exists_eq_cons
        rw [← hn, ← heq]
        simp only [List.length_append, List.length_cons]
        omega
      · rw [pieces_cons_of_not_begins hbegins]
        refine .char hbegins (ih cs.length ?_ cs rfl)
        rw [← hn, List.length_cons]
        omega

/-- The parts that a template is cut into are those of the scan, and it leaves no choice. -/
theorem scan_iff {cs : List Char} {ps : List Piece} : Scan cs ps ↔ ps = pieces cs := by
  constructor
  · intro h
    induction h with
    | done => rfl
    | char free _ ih => rw [pieces_cons_of_not_begins free, ih]
    | placeholder taken _ ih => rw [pieces_append_of_isPlaceholder taken, ih]
  · rintro rfl
    exact scan_pieces cs

/-! ## Readings

A reading is a template as its author thinks of it. The literal in front and the literals behind the
placeholders may be empty, so two placeholders may stand side by side. That the same text cannot be
read in two ways is not obvious, for a literal may end in a brace; it follows from the scan, which
leaves no choice (`eq_of_text_eq`). -/

/-- A placeholder for a field there is, and the literal that follows it. -/
structure Slot where
  field : Field
  spelling : List Char
  after : List Char

/-- A template taken apart: a literal, and then placeholders, each with the literal after it. -/
structure Reading where
  first : List Char
  slots : List Slot

/-- No two opening braces in a row. -/
def IsLiteral (cs : List Char) : Prop := ¬ ['{', '{'] <:+: cs

/-- Nothing at all is a literal. -/
theorem isLiteral_nil : IsLiteral [] := fun h => absurd (List.infix_nil.mp h) (List.cons_ne_nil _ _)

namespace Reading

/-- The template that is taken apart. -/
def text (r : Reading) : List Char := r.first ++ r.slots.flatMap fun s => s.spelling ++ s.after

/-- The template with values for placeholders. -/
def filled (scope : Scope) (r : Reading) : List Char :=
  r.first ++ r.slots.flatMap fun s => (scope.value s.field).toList ++ s.after

/-- Literals are literals, and placeholders are placeholders for their fields. -/
structure WellFormed (r : Reading) : Prop where
  first : IsLiteral r.first
  spelling : ∀ s ∈ r.slots, IsPlaceholder s.field.name s.spelling
  after : ∀ s ∈ r.slots, IsLiteral s.after

/-- The parts of a reading. -/
def pieces (r : Reading) : List Piece :=
  r.first.map .char ++
    r.slots.flatMap fun s => .placeholder s.field.name s.spelling :: s.after.map .char

/-! ### One part after the other -/

/-- What holds of a reading with one part less holds of the reading. -/
@[elab_as_elim]
theorem induction_on_parts {P : Reading → Prop} (r : Reading) (nil : P ⟨[], []⟩)
    (char : ∀ c first slots, P ⟨first, slots⟩ → P ⟨c :: first, slots⟩)
    (slot : ∀ s slots, P ⟨s.after, slots⟩ → P ⟨[], s :: slots⟩) : P r := by
  obtain ⟨first, slots⟩ := r
  have hchars : ∀ {slots : List Slot}, P ⟨[], slots⟩ → ∀ first, P ⟨first, slots⟩ := by
    intro slots hnil first
    induction first with
    | nil => exact hnil
    | cons c first ih => exact char c first slots ih
  induction slots generalizing first with
  | nil => exact hchars nil first
  | cons s slots ih => exact hchars (slot s slots (ih s.after)) first

variable (c : Char) (first : List Char) (s : Slot) (slots : List Slot)

/-- A character in front of a reading is one in front of its text. -/
theorem text_char : text ⟨c :: first, slots⟩ = c :: text ⟨first, slots⟩ := rfl

/-- A placeholder in front is its spelling. -/
theorem text_slot : text ⟨[], s :: slots⟩ = s.spelling ++ text ⟨s.after, slots⟩ := by
  simp only [text, List.nil_append, List.flatMap_cons, List.append_assoc]

/-- A character in front is one more part. -/
theorem pieces_char : pieces ⟨c :: first, slots⟩ = .char c :: pieces ⟨first, slots⟩ := rfl

/-- So is a placeholder. -/
theorem pieces_slot : pieces ⟨[], s :: slots⟩ =
    .placeholder s.field.name s.spelling :: pieces ⟨s.after, slots⟩ := by
  simp only [pieces, List.map_nil, List.nil_append, List.flatMap_cons, List.cons_append]

/-- A literal is filled in as it is. -/
theorem filled_char (scope : Scope) :
    filled scope ⟨c :: first, slots⟩ = c :: filled scope ⟨first, slots⟩ := rfl

/-- A placeholder is filled in with the value of its field. -/
theorem filled_slot (scope : Scope) : filled scope ⟨[], s :: slots⟩ =
    (scope.value s.field).toList ++ filled scope ⟨s.after, slots⟩ := by
  simp only [filled, List.nil_append, List.flatMap_cons, List.append_assoc]

variable {c first s slots}

/-- Without its first character a literal is still one. -/
theorem WellFormed.of_char (h : WellFormed ⟨c :: first, slots⟩) : WellFormed ⟨first, slots⟩ :=
  ⟨fun hinfix => h.first (List.infix_cons hinfix), h.spelling, h.after⟩

/-- Without its first placeholder a reading goes on with the literal behind it. -/
theorem WellFormed.of_slot (h : WellFormed ⟨first, s :: slots⟩) : WellFormed ⟨s.after, slots⟩ where
  first := h.after s List.mem_cons_self
  spelling t ht := h.spelling t (List.mem_cons_of_mem s ht)
  after t ht := h.after t (List.mem_cons_of_mem s ht)

/-! ### A reading and the scan -/

/-- No placeholder begins within a literal. -/
theorem not_begins_of_literal (h : WellFormed ⟨c :: first, slots⟩) :
    ¬ Begins (text ⟨c :: first, slots⟩) := by
  rintro ⟨name, spelling, hplaceholder, hbegin⟩
  obtain ⟨d, rest, rfl, hd⟩ := hplaceholder.exists_eq_cons
  rw [text, List.cons_append, List.cons_prefix_cons] at hbegin
  obtain ⟨rfl, hbegin⟩ := hbegin
  cases first with
  | cons c' first =>
    -- the second brace would be in the literal as well
    rw [List.cons_append, List.cons_prefix_cons] at hbegin
    obtain ⟨rfl, -⟩ := hbegin
    exact h.first (List.IsPrefix.isInfix ⟨first, rfl⟩)
  | nil =>
    cases slots with
    | nil => exact absurd (List.prefix_nil.mp hbegin) (List.cons_ne_nil _ _)
    | cons s slots =>
      -- the second brace would be the first one of the next placeholder
      obtain ⟨e, rest', hs, -⟩ := (h.spelling s List.mem_cons_self).exists_eq_cons
      rw [List.nil_append, List.flatMap_cons, hs, List.cons_append, List.cons_append,
        List.cons_append, List.cons_append, List.cons_prefix_cons, List.cons_prefix_cons] at hbegin
      exact hd hbegin.2.1

/-- The parts of a template are those of its reading. -/
theorem pieces_text {r : Reading} (h : r.WellFormed) : Template.pieces r.text = r.pieces := by
  induction r using induction_on_parts with
  | nil => rfl
  | char c first slots ih =>
    have hfree := not_begins_of_literal h
    rw [text_char] at hfree ⊢
    rw [pieces_cons_of_not_begins hfree, ih h.of_char, pieces_char]
  | slot s slots ih =>
    have hplaceholder := h.spelling s List.mem_cons_self
    rw [text_slot, pieces_append_of_isPlaceholder hplaceholder, ih h.of_slot, pieces_slot]

/-- The reading that parts belong to. -/
def ofPieces : List Piece → Reading
  | [] => ⟨[], []⟩
  | .char c :: ps => ⟨c :: (ofPieces ps).first, (ofPieces ps).slots⟩
  | .placeholder name spelling :: ps =>
    -- for parts that are rendered there always is a field, so the default is of no account
    let field := (Field.ofName? name).getD .version
    ⟨[], ⟨field, spelling, (ofPieces ps).first⟩ :: (ofPieces ps).slots⟩

/-- The parts of a reading tell the reading. -/
theorem ofPieces_pieces (r : Reading) : ofPieces r.pieces = r := by
  induction r using induction_on_parts with
  | nil => rfl
  | char c first slots ih => rw [pieces_char, ofPieces, ih]
  | slot s slots ih =>
    rw [pieces_slot, ofPieces, ih, Field.ofName?_name]
    rfl

/-- The literal in front begins with a character only if the parts do. -/
theorem head?_of_prefix_first {c : Char} {ps : List Piece} (h : [c] <+: (ofPieces ps).first) :
    ps.head? = some (.char c) := by
  cases ps with
  | nil => exact absurd (List.prefix_nil.mp h) (List.cons_ne_nil _ _)
  | cons p ps =>
    cases p with
    | char d =>
      rw [ofPieces, List.cons_prefix_cons] at h
      rw [h.1]
      rfl
    | placeholder name spelling => exact absurd (List.prefix_nil.mp h) (List.cons_ne_nil _ _)

/-- There is at most one way to take a template apart. -/
theorem eq_of_text_eq {r r' : Reading} (h : r.WellFormed) (h' : r'.WellFormed)
    (heq : r.text = r'.text) : r = r' := by
  have hparts : r.pieces = r'.pieces := by rw [← pieces_text h, ← pieces_text h', heq]
  rw [← ofPieces_pieces r, hparts, ofPieces_pieces r']

end Reading

/-! ## What is rendered

The renderer works on the parts and does not know of readings. That it succeeds on the parts of a
reading is one induction over readings, and that it succeeds on nothing else is one over scans. -/

variable {scope : Scope} {template : String}

/-- A character is put out unless it is the first of two braces. -/
theorem renderPieces_char {c : Char} {ps : List Piece} (offset : Nat)
    (h : ¬ (c = '{' ∧ ps.head? = some (.char '{'))) :
    renderPieces scope template offset (.char c :: ps) =
      (renderPieces scope template (offset + c.utf8Size) ps).map (c :: ·) := by
  rw [renderPieces, if_neg h]
  cases renderPieces scope template (offset + c.utf8Size) ps <;> rfl

/-- A placeholder is put out as the value of its field. -/
theorem renderPieces_placeholder {name spelling : List Char} {f : Field} {ps : List Piece}
    (offset : Nat) (h : Field.ofName? name = some f) :
    renderPieces scope template offset (.placeholder name spelling :: ps) =
      (renderPieces scope template (offset + byteLength spelling) ps).map
        ((scope.value f).toList ++ ·) := by
  rw [renderPieces, h]
  dsimp only
  cases renderPieces scope template (offset + byteLength spelling) ps <;> rfl

/-- In a reading, no brace of a literal is followed by a second one outside of a placeholder. -/
theorem not_two_braces {c : Char} {first : List Char} {slots : List Slot}
    (h : Reading.WellFormed ⟨c :: first, slots⟩) :
    ¬ (c = '{' ∧ (Reading.pieces ⟨first, slots⟩).head? = some (.char '{')) := by
  rintro ⟨rfl, hhead⟩
  cases first with
  | nil =>
    cases slots with
    | nil => cases hhead
    | cons s slots => cases hhead
  | cons c first =>
    have hc : c = '{' := by
      injection Option.some.inj hhead
    rw [hc] at h
    exact h.first (List.IsPrefix.isInfix ⟨first, rfl⟩)

/-- The parts of a reading are rendered to what its placeholders stand for. -/
theorem renderPieces_pieces {r : Reading} (h : r.WellFormed) (offset : Nat) :
    renderPieces scope template offset r.pieces = .ok (r.filled scope) := by
  induction r using Reading.induction_on_parts generalizing offset with
  | nil => rfl
  | char c first slots ih =>
    rw [Reading.pieces_char, renderPieces_char offset (not_two_braces h), ih h.of_char,
      Reading.filled_char]
    rfl
  | slot s slots ih =>
    rw [Reading.pieces_slot, renderPieces_placeholder offset (Field.ofName?_name s.field),
      ih h.of_slot, Reading.filled_slot]
    rfl

/-- Where the scan of a text is rendered, it is that of a reading. -/
theorem wellFormed_of_render {cs : List Char} {ps : List Piece} (hscan : Scan cs ps)
    {offset : Nat} {out : List Char} (h : renderPieces scope template offset ps = .ok out) :
    (Reading.ofPieces ps).WellFormed ∧ (Reading.ofPieces ps).text = cs := by
  induction hscan generalizing offset out with
  | done => exact ⟨⟨isLiteral_nil, nofun, nofun⟩, rfl⟩
  | @char c cs ps free later ih =>
    have hbraces : ¬ (c = '{' ∧ ps.head? = some (.char '{')) := by
      intro hbraces
      rw [renderPieces, if_pos hbraces] at h
      cases h
    rw [renderPieces_char offset hbraces] at h
    cases hlater : renderPieces scope template (offset + c.utf8Size) ps with
    | error e =>
      rw [hlater] at h
      cases h
    | ok rest =>
      obtain ⟨hwf, htext⟩ := ih hlater
      refine ⟨⟨?_, hwf.spelling, hwf.after⟩, congrArg (c :: ·) htext⟩
      intro hinfix
      -- two braces are in front, where the renderer would have stopped, or further back
      rcases List.infix_cons_iff.mp hinfix with hbegin | hinfix
      · rw [List.cons_prefix_cons] at hbegin
        exact hbraces ⟨hbegin.1.symm, Reading.head?_of_prefix_first hbegin.2⟩
      · exact hwf.first hinfix
  | @placeholder name spelling cs ps taken later ih =>
    cases hfield : Field.ofName? name with
    | none =>
      rw [renderPieces, hfield] at h
      cases h
    | some f =>
      rw [renderPieces_placeholder offset hfield] at h
      cases hlater : renderPieces scope template (offset + byteLength spelling) ps with
      | error e =>
        rw [hlater] at h
        cases h
      | ok rest =>
        obtain ⟨hwf, htext⟩ := ih hlater
        have hname := Field.name_eq_of_ofName? hfield
        rw [Reading.ofPieces, hfield]
        refine ⟨⟨isLiteral_nil, ?_, ?_⟩, ?_⟩
        · rw [List.forall_mem_cons]
          refine ⟨?_, hwf.spelling⟩
          rw [Option.getD_some, hname]
          exact taken
        · rw [List.forall_mem_cons]
          exact ⟨hwf.first, hwf.after⟩
        · rw [Reading.text_slot]
          exact congrArg (spelling ++ ·) htext

/-! ## What stops rendering

Obstacles are counted by the parts in front of them, and so the first of them is the one with the
least number. How many bytes stand in front of it, which is what the message says, is added up from
the spellings of these parts. -/

/-- `Obstacle template offset ps n e`: after `n` of the parts stands something that cannot be
rendered, and `e` says so: two opening braces outside of every placeholder, or a placeholder
whose name is that of no field. In front of the parts there are `offset` bytes. -/
inductive Obstacle (template : String) (offset : Nat) (ps : List Piece) : Nat → TemplateError → Prop
  | braces {before after : List Piece} (parts : ps = before ++ .char '{' :: .char '{' :: after) :
      Obstacle template offset ps before.length
        (.malformed template
          (offset + (String.ofList (before.flatMap Piece.spelling)).utf8ByteSize))
  | field {before : List Piece} {name spelling : List Char} {after : List Piece}
      (parts : ps = before ++ .placeholder name spelling :: after)
      (unknown : ∀ f : Field, f.name ≠ name) :
      Obstacle template offset ps before.length (.unknownField template (String.ofList name))

/-- The obstacle in front of all others. -/
def IsFirstObstacle (template : String) (offset : Nat) (ps : List Piece) (e : TemplateError) :
    Prop :=
  ∃ n, Obstacle template offset ps n e ∧ ∀ m e', Obstacle template offset ps m e' → n ≤ m

/-- The bytes that are counted are those of the text in UTF-8. -/
theorem byteLength_eq (cs : List Char) : byteLength cs = (String.ofList cs).utf8ByteSize := by
  induction cs with
  | nil => rfl
  | cons c cs ih =>
    rw [byteLength, ih, String.ofList_cons, String.utf8ByteSize_append,
      String.utf8ByteSize_singleton]

namespace Obstacle

variable {offset n : Nat} {p : Piece} {ps : List Piece} {e : TemplateError}

/-- Where there are no parts there is no obstacle. -/
theorem not_nil : ¬ Obstacle template offset [] n e := by
  intro h
  generalize hps : ([] : List Piece) = ps at h
  cases h with
  | braces parts =>
    rw [← hps] at parts
    exact absurd parts.symm (List.append_ne_nil_of_right_ne_nil _ (List.cons_ne_nil _ _))
  | field parts =>
    rw [← hps] at parts
    exact absurd parts.symm (List.append_ne_nil_of_right_ne_nil _ (List.cons_ne_nil _ _))

/-- The first of two parts in a row: either it is an obstacle, or the rest has them all. -/
theorem cons_cases (h : Obstacle template offset (p :: ps) n e) :
    (n = 0 ∧ ((p = .char '{' ∧ ps.head? = some (.char '{') ∧ e = .malformed template offset) ∨
      ∃ name spelling, p = .placeholder name spelling ∧ (∀ f : Field, f.name ≠ name) ∧
        e = .unknownField template (String.ofList name))) ∨
    ∃ m, n = m + 1 ∧ Obstacle template (offset + byteLength p.spelling) ps m e := by
  -- the parts before the obstacle are taken apart: if there are none it is the first part, and if
  -- there are it is one of the rest, with one part less before it
  generalize hps : p :: ps = whole at h
  cases h with
  | @braces before after parts =>
    rw [← hps] at parts
    cases before with
    | nil =>
      obtain ⟨rfl, rfl⟩ := List.cons.inj parts
      exact .inl ⟨rfl, .inl ⟨rfl, rfl, rfl⟩⟩
    | cons q before =>
      obtain ⟨rfl, rfl⟩ := List.cons.inj parts
      refine .inr ⟨before.length, rfl, ?_⟩
      rw [List.flatMap_cons, String.ofList_append, String.utf8ByteSize_append, ← byteLength_eq,
        ← Nat.add_assoc]
      exact .braces rfl
  | @field before name spelling after parts unknown =>
    rw [← hps] at parts
    cases before with
    | nil =>
      obtain ⟨rfl, rfl⟩ := List.cons.inj parts
      exact .inl ⟨rfl, .inr ⟨name, spelling, rfl, unknown, rfl⟩⟩
    | cons q before =>
      obtain ⟨rfl, rfl⟩ := List.cons.inj parts
      exact .inr ⟨before.length, rfl, .field rfl unknown⟩

/-- The obstacles of the rest are obstacles. -/
theorem cons (h : Obstacle template (offset + byteLength p.spelling) ps n e) :
    Obstacle template offset (p :: ps) (n + 1) e := by
  cases h with
  | @braces before after parts =>
    have hwhole : Obstacle template offset (p :: ps) (p :: before).length _ :=
      .braces (congrArg (p :: ·) parts)
    rw [List.flatMap_cons, String.ofList_append, String.utf8ByteSize_append, ← byteLength_eq,
      ← Nat.add_assoc] at hwhole
    exact hwhole
  | @field before name spelling after parts unknown =>
    have hwhole : Obstacle template offset (p :: ps) (p :: before).length _ :=
      .field (congrArg (p :: ·) parts) unknown
    exact hwhole

end Obstacle

/-- If the first part is an obstacle, it is the one that counts, and it leaves no choice. -/
theorem isFirstObstacle_iff_of_head {offset : Nat} {p : Piece} {ps : List Piece}
    {e e' : TemplateError} (h : Obstacle template offset (p :: ps) 0 e) :
    IsFirstObstacle template offset (p :: ps) e' ↔ e' = e := by
  constructor
  · rintro ⟨n, hn, hfirst⟩
    obtain rfl : n = 0 := Nat.le_zero.mp (hfirst 0 e h)
    -- a part is a character or a placeholder, so it is one kind of obstacle at most
    rcases h.cons_cases with ⟨-, ⟨rfl, -, rfl⟩ | ⟨name, spelling, rfl, -, rfl⟩⟩ | ⟨m, hm, -⟩
    · rcases hn.cons_cases with ⟨-, ⟨-, -, rfl⟩ | ⟨name, spelling, hp, -⟩⟩ | ⟨m, hm, -⟩
      · rfl
      · cases hp
      · cases hm
    · rcases hn.cons_cases with ⟨-, ⟨hp, -⟩ | ⟨name', spelling', hp, -, rfl⟩⟩ | ⟨m, hm, -⟩
      · cases hp
      · cases hp
        rfl
      · cases hm
    · cases hm
  · rintro rfl
    exact ⟨0, h, fun m _ _ => Nat.zero_le m⟩

/-- If it is none, the rest decides. -/
theorem isFirstObstacle_cons_iff {offset : Nat} {p : Piece} {ps : List Piece} {e : TemplateError}
    (h : ∀ e, ¬ Obstacle template offset (p :: ps) 0 e) :
    IsFirstObstacle template offset (p :: ps) e ↔
      IsFirstObstacle template (offset + byteLength p.spelling) ps e := by
  have hlater : ∀ {n e}, Obstacle template offset (p :: ps) n e →
      ∃ m, n = m + 1 ∧ Obstacle template (offset + byteLength p.spelling) ps m e := by
    intro n e hn
    rcases hn.cons_cases with ⟨rfl, -⟩ | hlater
    · exact absurd hn (h e)
    · exact hlater
  constructor
  · rintro ⟨n, hn, hfirst⟩
    obtain ⟨m, rfl, hm⟩ := hlater hn
    exact ⟨m, hm, fun k e' hk => Nat.succ_le_succ_iff.mp (hfirst (k + 1) e' hk.cons)⟩
  · rintro ⟨m, hm, hfirst⟩
    refine ⟨m + 1, hm.cons, fun n e' hn => ?_⟩
    obtain ⟨k, rfl, hk⟩ := hlater hn
    exact Nat.succ_le_succ (hfirst k e' hk)

/-- What is made of the result does not change the error. -/
theorem map_eq_error_iff {α β : Type} {r : Except TemplateError α} {f : α → β}
    {e : TemplateError} : r.map f = .error e ↔ r = .error e := by
  cases r with
  | ok a => exact ⟨nofun, nofun⟩
  | error e' =>
    exact ⟨fun h => congrArg _ (Except.error.inj h), fun h => congrArg _ (Except.error.inj h)⟩

/-- Rendering stops at the first obstacle, and only there. -/
theorem renderPieces_eq_error_iff (ps : List Piece) (offset : Nat) (e : TemplateError) :
    renderPieces scope template offset ps = .error e ↔ IsFirstObstacle template offset ps e := by
  induction ps generalizing offset with
  | nil => exact ⟨nofun, fun ⟨_, h, _⟩ => absurd h Obstacle.not_nil⟩
  | cons p ps ih =>
    cases p with
    | char c =>
      by_cases hbraces : c = '{' ∧ ps.head? = some (.char '{')
      · obtain ⟨rest, rfl⟩ := List.head?_eq_some_iff.mp hbraces.2
        obtain ⟨rfl, -⟩ := hbraces
        have hhead : Obstacle template offset (.char '{' :: .char '{' :: rest) 0
            (.malformed template offset) := @Obstacle.braces _ _ _ [] rest rfl
        rw [isFirstObstacle_iff_of_head hhead, renderPieces, if_pos ⟨rfl, rfl⟩]
        exact ⟨fun h => (Except.error.inj h).symm, fun h => congrArg Except.error h.symm⟩
      · have hnone : ∀ e, ¬ Obstacle template offset (.char c :: ps) 0 e := by
          intro e h
          rcases h.cons_cases with ⟨-, ⟨hc, hhead, -⟩ | ⟨name, spelling, hp, -⟩⟩ | ⟨m, hm, -⟩
          · cases hc
            exact hbraces ⟨rfl, hhead⟩
          · cases hp
          · cases hm
        rw [isFirstObstacle_cons_iff hnone, renderPieces_char offset hbraces, map_eq_error_iff]
        exact ih _
    | placeholder name spelling =>
      cases hfield : Field.ofName? name with
      | none =>
        -- every field is found by its name, so a name under which none is found is that of no field
        have hunknown : ∀ f : Field, f.name ≠ name := by
          rintro f rfl
          rw [Field.ofName?_name] at hfield
          cases hfield
        have hhead : Obstacle template offset (.placeholder name spelling :: ps) 0
            (.unknownField template (String.ofList name)) :=
        @Obstacle.field _ _ _ [] _ _ ps rfl hunknown
        rw [isFirstObstacle_iff_of_head hhead, renderPieces, hfield]
        exact ⟨fun h => (Except.error.inj h).symm, fun h => congrArg Except.error h.symm⟩
      | some f =>
        have hnone : ∀ e, ¬ Obstacle template offset (.placeholder name spelling :: ps) 0 e := by
          intro e h
          rcases h.cons_cases with ⟨-, ⟨hc, -⟩ | ⟨name', spelling', hp, hunknown, -⟩⟩ | ⟨m, hm, -⟩
          · cases hc
          · cases hp
            exact hunknown f (Field.name_eq_of_ofName? hfield)
          · cases hm
        rw [isFirstObstacle_cons_iff hnone, renderPieces_placeholder offset hfield,
          map_eq_error_iff]
        exact ih _

/-! ## Templates -/

/-- Rendering is rendering the parts, and then expanding once. -/
theorem Scope.render_eq (scope : Scope) (template text : String) :
    scope.render template text =
      (renderPieces scope template 0 (pieces text.toList)).map
        fun out => scope.environment.expand (String.ofList out) := by
  rw [render]
  cases renderPieces scope template 0 (pieces text.toList) <;> rfl

/-- **A template is rendered exactly when it can be taken apart**, into literals without two
opening braces in a row and placeholders for fields there are. There is then one way to do so,
and the result is the text with values for placeholders, whose variable references are expanded
once; what a value puts in is not searched for placeholders. Of any other template the first
obstacle is reported, in the order in which the scan from the left comes to them: two braces
outside of every placeholder with the number of bytes in front of them, or a placeholder for an
unknown field with its name. -/
theorem render_exact (scope : Scope) (template text : String) :
    (∀ s, scope.render template text = .ok s ↔
      ∃ r : Reading, r.WellFormed ∧ r.text = text.toList ∧
        s = scope.environment.expand (String.ofList (r.filled scope))) ∧
    (∀ r r' : Reading, r.WellFormed → r'.WellFormed → r.text = text.toList →
      r'.text = text.toList → r = r') ∧
    ∃ ps, (∀ qs, Scan text.toList qs ↔ qs = ps) ∧
      ∀ e, scope.render template text = .error e ↔ IsFirstObstacle template 0 ps e := by
  -- both directions go by the parts: a reading has those of its text
  have hreading : ∀ {r : Reading}, r.WellFormed → r.text = text.toList →
      renderPieces scope template 0 (pieces text.toList) = .ok (r.filled scope) := by
    intro r hwf htext
    rw [← htext, Reading.pieces_text hwf]
    exact renderPieces_pieces hwf 0
  refine ⟨fun s => ⟨fun h => ?_, ?_⟩, fun r r' hwf hwf' htext htext' => ?_, pieces text.toList,
    fun qs => scan_iff, fun e => ?_⟩
  · rw [scope.render_eq] at h
    cases hout : renderPieces scope template 0 (pieces text.toList) with
    | error e =>
      rw [hout] at h
      cases h
    | ok out =>
      obtain ⟨hwf, htext⟩ := wellFormed_of_render (scan_pieces _) hout
      have hfilled := hreading hwf htext
      rw [hfilled] at h
      exact ⟨_, hwf, htext, (Except.ok.inj h).symm⟩
  · rintro ⟨r, hwf, htext, rfl⟩
    rw [scope.render_eq, hreading hwf htext]
    rfl
  · exact Reading.eq_of_text_eq hwf hwf' (htext.trans htext'.symm)
  · rw [scope.render_eq, map_eq_error_iff]
    exact renderPieces_eq_error_iff _ 0 e

end ReleasePipeline.Template
