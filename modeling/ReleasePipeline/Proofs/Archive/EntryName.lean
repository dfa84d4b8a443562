/-
How the name of an entry begins.

A name that begins with a slash leads to the root, wherever it is unpacked, and the others lead to
somewhere from there (`IsRelative`). Made relative, a name loses what stands at its front, and that
in two turns: first every step `./`, until there is none, and then every slash
(`isRest_relativeName`). The order matters. What comes out does not begin with a slash, but it may
begin with such a step again, where there was one behind the slashes: of `/./demo` the name `./demo`
is left.

A tar archive spells a name anew from the steps of its path. A slash is written only behind
something that was written before, and no step is empty or holds a slash, so that what is written
first is none (`begun_of_writeParts`). That is so whatever the name begins with: a step to the root
is refused, and one that stays where it is counts for nothing unless it is all there is. The
exception is a name that is too long for a header; it is kept as it is, in a member of its own, and
is relative if it was so before (`isRelative_of_entryName`).
-/
import Mathlib.Data.List.Infix
import Mathlib.Data.List.TakeWhile
import ReleasePipeline.Archive.EntryName
import ReleasePipeline.Archive.Plan
import ReleasePipeline.Proofs.Files.Growth
import ReleasePipeline.Proofs.Text.Parts

set_option autoImplicit false

namespace ReleasePipeline.Archive

/-- The name does not lead to the root. -/
def IsRelative (name : String) : Prop := name.toList.head? ≠ some '/'

instance (name : String) : Decidable (IsRelative name) :=
  inferInstanceAs (Decidable (_ ≠ _))

/-- A beginning of a name that is relative is relative. -/
theorem IsRelative.of_begins {front name : String} (h : IsRelative name)
    (hfront : front.toList <+: name.toList) : IsRelative front := by
  obtain ⟨rest, hrest⟩ := hfront
  rw [IsRelative, ← hrest, List.head?_append] at h
  cases hhead : front.toList.head? with
  | none => exact fun heq => nomatch hhead.symm.trans heq
  | some c =>
    rw [hhead] at h
    exact fun heq => h (hhead.symm.trans heq)

/-! ## What stands at the front

Both turns take something from a list as often as it is there. What was taken can be written down as
so many copies of it, and what is left does not begin with it. -/

/-- What is left behind the slashes at the front does not begin with one. -/
theorem head?_dropSlashes (cs : List Char) : (cs.dropWhile (· == '/')).head? ≠ some '/' := by
  intro hslash
  have hnot := List.head?_dropWhile_not (· == '/') cs
  rw [hslash] at hnot
  exact absurd hnot (by decide)

/-- The slashes at the front are so many slashes, and the rest is what is left. -/
theorem exists_eq_append_dropSlashes (cs : List Char) :
    ∃ n, cs = List.replicate n '/' ++ cs.dropWhile (· == '/') := by
  have hslashes : ∀ c ∈ cs.takeWhile (· == '/'), c = '/' := fun c hc =>
    beq_iff_eq.mp (List.mem_takeWhile_imp (p := (· == '/')) hc)
  refine ⟨(cs.takeWhile (· == '/')).length, ?_⟩
  rw [← List.eq_replicate_of_mem hslashes, List.takeWhile_append_dropWhile]

/-- A mark is taken away until there is none, if it may be taken away often enough. Each time the
text gets shorter, so its length is often enough. -/
theorem exists_eq_append_loop (m : Char) (rest : List Char) (n : Nat) (cs : List Char)
    (hn : cs.length ≤ n) :
    ∃ k, cs = (List.replicate k (m :: rest)).flatten ++ dropLeading.loop m rest n cs ∧
      ¬(m :: rest) <+: dropLeading.loop m rest n cs := by
  induction n generalizing cs with
  | zero =>
    obtain rfl := List.length_eq_zero_iff.mp (Nat.le_zero.mp hn)
    exact ⟨0, rfl, fun h => List.cons_ne_nil m rest (List.prefix_nil.mp h)⟩
  | succ n ih =>
    rw [dropLeading.loop]
    -- one copy is taken, and the rest is shorter; or there is none to take, and then it is the end
    cases hfront : (m :: rest).isPrefixOf? cs with
    | some behind =>
      obtain rfl := List.isPrefixOf?_eq_some_iff_append_eq.mp hfront
      have hbehind : behind.length ≤ n := by
        rw [List.length_append, List.length_cons] at hn
        omega
      obtain ⟨k, heq, hnone⟩ := ih behind hbehind
      refine ⟨k + 1, ?_, hnone⟩
      rw [List.replicate_succ, List.flatten_cons, List.append_assoc, ← heq]
    | none =>
      refine ⟨0, rfl, fun ⟨behind, hbehind⟩ => ?_⟩
      have hsome := List.isPrefixOf?_eq_some_iff_append_eq.mpr hbehind
      rw [hfront] at hsome
      cases hsome

/-- What is left of a name when it is made relative. -/
structure IsRest (rest asked : String) : Prop where
  /-- Steps that stay where they are were taken from the front until there was none, and then
  slashes. -/
  taken : ∃ steps slashes,
    asked.toList = (List.replicate steps ['.', '/']).flatten
      ++ (List.replicate slashes '/' ++ rest.toList) ∧
    ¬['.', '/'] <+: List.replicate slashes '/' ++ rest.toList
  /-- It does not begin with a slash. -/
  relative : IsRelative rest

/-- Making a name relative leaves what is left of it in this sense. -/
theorem isRest_relativeName (name : String) : IsRest (relativeName name) name := by
  obtain ⟨steps, hsteps, hnone⟩ :=
    exists_eq_append_loop '.' ['/'] name.toList.length name.toList le_rfl
  obtain ⟨slashes, hslashes⟩ := exists_eq_append_dropSlashes (dropLeading ['.', '/'] name.toList)
  have hrest : (relativeName name).toList
      = (dropLeading ['.', '/'] name.toList).dropWhile (· == '/') := String.toList_ofList
  constructor
  · refine ⟨steps, slashes, ?_, ?_⟩
    · rw [hrest, ← hslashes]
      exact hsteps
    · rw [hrest, ← hslashes]
      exact hnone
  · rw [IsRelative, hrest]
    exact head?_dropSlashes _

/-- Steps go and then slashes, but a step behind a slash stays. -/
example : relativeName "././/bin/demo" = "bin/demo" ∧ relativeName "/./demo" = "./demo" := by
  decide +kernel

/-- A text without the slashes at its ends. -/
structure IsTrimmed (trimmed text : String) : Prop where
  taken : ∃ before behind,
    text.toList = List.replicate before '/' ++ trimmed.toList ++ List.replicate behind '/'
  relative : IsRelative trimmed
  last : trimmed.toList.getLast? ≠ some '/'

/-- Trimming takes the slashes from both ends and nothing else. -/
theorem isTrimmed_trimSlashes (text : String) :
    IsTrimmed (String.ofList (trimSlashes text.toList)) text := by
  obtain ⟨before, hbefore⟩ := exists_eq_append_dropSlashes text.toList
  have hfront := head?_dropSlashes text.toList
  generalize hrest : text.toList.dropWhile (· == '/') = rest at hbefore hfront
  obtain ⟨behind, hbehind⟩ := exists_eq_append_dropSlashes rest.reverse
  have hlast := head?_dropSlashes rest.reverse
  have htrimmed : trimSlashes text.toList = (rest.reverse.dropWhile (· == '/')).reverse := by
    rw [trimSlashes, hrest]
  -- what is taken from the end is taken from the front of the reverse
  have hsplit : rest = trimSlashes text.toList ++ List.replicate behind '/' := by
    rw [htrimmed, ← List.reverse_replicate, ← List.reverse_append, ← hbehind, List.reverse_reverse]
  constructor
  · refine ⟨before, behind, ?_⟩
    rw [String.toList_ofList, List.append_assoc, ← hsplit]
    exact hbefore
  -- it is a beginning of what has no slash at the front
  · have hrelative : IsRelative (String.ofList rest) := by
      rw [IsRelative, String.toList_ofList]
      exact hfront
    refine hrelative.of_begins ⟨List.replicate behind '/', ?_⟩
    rw [String.toList_ofList, String.toList_ofList, ← hsplit]
  · rw [String.toList_ofList, htrimmed, List.getLast?_reverse]
    exact hlast

/-! ## The spelling in a tar archive

The path is written step by step. What has to be followed is the text that was written so far: it is
empty, or it was begun with a character that is no slash. -/

/-- Something is written, and it does not begin with a slash. -/
def Begun (cs : List Char) : Prop := ∃ c rest, cs = c :: rest ∧ c ≠ '/'

/-- What is written behind it does not change the beginning. -/
theorem Begun.append {cs : List Char} (h : Begun cs) (more : List Char) : Begun (cs ++ more) := by
  obtain ⟨c, rest, rfl, hc⟩ := h
  exact ⟨c, rest ++ more, rfl, hc⟩

/-- What was begun in this way is the spelling of a relative name. -/
theorem Begun.isRelative {cs : List Char} (h : Begun cs) : IsRelative (String.ofList cs) := by
  obtain ⟨c, rest, rfl, hc⟩ := h
  rw [IsRelative, String.toList_ofList, List.head?_cons]
  exact fun heq => hc (Option.some.inj heq)

/-- A step that is not empty and holds no slash begins what it is the first of. -/
theorem begun_of_slash_not_mem {cs : List Char} (hne : cs ≠ []) (hslash : '/' ∉ cs) : Begun cs := by
  obtain ⟨c, rest, rfl⟩ := List.exists_cons_of_ne_nil hne
  exact ⟨c, rest, rfl, fun hc => hslash (hc ▸ List.mem_cons_self)⟩

section Writing

variable {lastMayClimb : Bool} {written cs out : List Char} {rest parts : List Path.Part}

/-- One step is written behind what there is, with a slash in between if there is something. -/
theorem exists_of_writeName (h : writeParts.writeName lastMayClimb written cs rest = .ok out) :
    ∃ slash, (written = [] → slash = []) ∧
      writeParts lastMayClimb (written ++ slash ++ cs) rest = .ok out := by
  rw [writeParts.writeName] at h
  split at h
  · cases h
  · exact ⟨_, fun hnil => if_pos (List.isEmpty_iff.mpr hnil), h⟩

/-- If something is written, it was begun with what is no slash. By induction on the steps: the
first one that is written begins it, and what was begun is only added to. -/
theorem begun_of_writeParts (hparts : ∀ cs, Path.Part.name cs ∈ parts → Begun cs)
    (hwritten : Begun written ∨ written = [] ∧ parts ≠ [])
    (h : writeParts lastMayClimb written parts = .ok out) : Begun out := by
  induction parts generalizing written with
  | nil =>
    rw [writeParts] at h
    cases h
    exact hwritten.resolve_right fun hnone => hnone.2 rfl
  | cons part rest ih =>
    have hrest : ∀ cs, Path.Part.name cs ∈ rest → Begun cs :=
      fun cs hcs => hparts cs (List.mem_cons_of_mem _ hcs)
    -- a step is put behind what was begun, or else it is the beginning
    have hstep (cs : List Char) (hcs : Begun cs)
        (hname : writeParts.writeName lastMayClimb written cs rest = .ok out) : Begun out := by
      obtain ⟨slash, hslash, hlater⟩ := exists_of_writeName hname
      refine ih hrest (.inl ?_) hlater
      rcases hwritten with hbegun | ⟨rfl, -⟩
      · exact (hbegun.append slash).append cs
      · rw [hslash rfl]
        exact hcs
    -- one case for each kind of step: a step up may be refused, and a step that stays is written
    -- only at the end
    rw [writeParts.eq_def] at h
    cases part with
    | root => cases h
    | up =>
      dsimp only at h
      split at h
      · exact hstep _ ⟨'.', ['.'], rfl, by decide⟩ h
      · cases h
    | here =>
      dsimp only at h
      split at h
      · exact hstep _ ⟨'.', [], rfl, by decide⟩ h
      · next hmore =>
        refine ih hrest ?_ h
        exact hwritten.imp id fun hnone => ⟨hnone.1, fun hnil => hmore (List.isEmpty_iff.mpr hnil)⟩
    | name cs => exact hstep cs (hparts cs List.mem_cons_self) h

end Writing

/-- A step of a path that is a name is a spelling between slashes. -/
theorem begun_of_name_mem_parts {p : Path} {cs : List Char} (h : Path.Part.name cs ∈ p.parts) :
    Begun cs := by
  have hpiece : ∀ piece ∈ p.pieces, ∀ cs, Path.partOf? piece = some (.name cs) → Begun cs := by
    intro piece hmem cs hcs
    rw [Path.pieces, Text.splitOn_eq] at hmem
    rw [Path.partOf?] at hcs
    split at hcs
    · cases hcs
    · next hidle =>
      split at hcs
      · cases hcs
      · cases hcs
        exact begun_of_slash_not_mem (fun hnil => hidle (.inl hnil))
          (Text.not_mem_of_mem_splitOn hmem)
  -- an absolute path has the root as its first step, and none of its names is lost by that
  rw [Path.parts] at h
  cases hpieces : p.pieces with
  | nil =>
    rw [hpieces] at h
    cases h
  | cons first later =>
    rw [hpieces, List.forall_mem_cons] at hpiece
    rw [hpieces] at h
    have hlater (hmem : Path.Part.name cs ∈ later.filterMap Path.partOf?) : Begun cs := by
      obtain ⟨piece, hmem, hpart⟩ := List.mem_filterMap.mp hmem
      exact hpiece.2 piece hmem cs hpart
    dsimp only at h
    split at h
    · exact hlater ((List.mem_cons.mp h).resolve_left nofun)
    · split at h
      · exact hlater ((List.mem_cons.mp h).resolve_left nofun)
      -- the first spelling is a step like the others, unless it was dealt with above
      · rcases List.mem_append.mp h with hfirst | hmem
        · exact hpiece.1 cs (Option.mem_toList.mp hfirst)
        · exact hlater hmem

/-- What a header has for a name is relative. -/
theorem isRelative_of_headerName {lastMayClimb : Bool} {name spelled : String}
    (h : headerName lastMayClimb name = .ok spelled) : IsRelative spelled := by
  obtain ⟨written, hwrite, h⟩ := exists_of_bind_eq_ok h
  split at h
  · cases h
  · next hparts =>
    have hbegun : Begun written :=
      begun_of_writeParts (fun cs hcs => begun_of_name_mem_parts hcs)
        (.inr ⟨rfl, fun hnil => hparts (List.isEmpty_iff.mpr hnil)⟩) hwrite
    -- a slash at the end marks a directory, and the front is as it was
    have hcandidate : IsRelative (String.ofList
        (if Path.endsInSlash ⟨name⟩ then written ++ ['/'] else written)) := by
      refine Begun.isRelative ?_
      split
      · exact hbegun.append _
      · exact hbegun
    dsimp only at h
    generalize String.ofList _ = candidate at h hcandidate
    split at h
    · cases h
    · cases h
      exact hcandidate

/-- A name that the header has no room for stays as it is, and if it was relative it is so still. -/
theorem isRelative_of_entryName {name spelled : String} (hname : IsRelative name)
    (h : entryName name = .ok spelled) : IsRelative spelled := by
  unfold entryName at h
  split at h
  · next hheader =>
    cases h
    exact isRelative_of_headerName hheader
  · split at h
    · cases h
    · obtain ⟨_, -, h⟩ := exists_of_bind_eq_ok h
      cases h
      exact hname

end ReleasePipeline.Archive
