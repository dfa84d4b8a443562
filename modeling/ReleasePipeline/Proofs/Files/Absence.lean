/-
When a path names no file.

The path above another is where a walk along that other stands before its last step, and the step
needs a directory to stand in. So where the path above is no directory nothing is named
(`exists?_eq_false_of_parent?`). If the directories on the way to a path cannot be created, it does
not matter which of them could not: the last of them is not there
(`isDirectory_of_createDirectories_eq_error`), and so there is nothing in it.

And a path names no file after what it named was taken away, if that was a file. All that a walk
passes through is still there, so the path leads to the same place, at which there is nothing now
(`isFile_cleared`).
-/
import Mathlib.Data.List.Chain
import ReleasePipeline.Proofs.Files.Growth
import ReleasePipeline.Proofs.Text.Parts

set_option autoImplicit false

namespace ReleasePipeline

/-! ## Paths -/

namespace Path

variable {p q : Path} {first last : List Char} {front back : List (List Char)}

/-- A path is its pieces with slashes between them. -/
theorem intercalate_pieces (p : Path) : ['/'].intercalate p.pieces = p.text.toList := by
  rw [pieces, Text.splitOn_eq, List.intercalate_splitOn]

/-- A text put together from parts without slashes has these parts. -/
theorem pieces_intercalate (hfront : front ≠ []) (hslash : ∀ piece ∈ front, '/' ∉ piece) :
    pieces ⟨String.ofList (['/'].intercalate front)⟩ = front := by
  rw [pieces, Text.splitOn_eq, String.toList_ofList, List.splitOn_intercalate '/' hslash hfront]

/-- The path begins with another, and goes on with at least one step. -/
structure BeginsWith (p q : Path) : Prop where
  text : ∃ more, p.text = q.text ++ more
  pieces : ∃ front back, p.pieces = front ++ back ∧ (∃ piece ∈ back, piece ≠ []) ∧
    q.pieces.filter (· ≠ []) = front.filter (· ≠ [])

/-- To cut a path behind some of its pieces leaves a path that it begins with, if a step follows. -/
theorem beginsWith_of_pieces_eq (front back : List (List Char)) (hfront : front ≠ [])
    (hpieces : p.pieces = front ++ back)
    (hstep : ∃ piece ∈ back, piece ≠ []) :
    p.BeginsWith ⟨String.ofList (['/'].intercalate front)⟩ := by
  -- what follows is more than nothing, so there is a slash behind the front
  have hback : back ≠ [] := by
    rintro rfl
    obtain ⟨piece, hpiece, -⟩ := hstep
    exact List.not_mem_nil hpiece
  refine ⟨⟨String.ofList ('/' :: ['/'].intercalate back), ?_⟩, front, back, hpieces, hstep, ?_⟩
  · rw [← String.toList_inj, ← intercalate_pieces, hpieces,
      Text.intercalate_append '/' hfront hback]
    simp
  · rw [pieces_intercalate hfront]
    intro piece hpiece
    have hmem : piece ∈ p.pieces := by
      rw [hpieces]
      exact List.mem_append_left back hpiece
    rw [Path.pieces, Text.splitOn_eq] at hmem
    exact Text.not_mem_of_mem_splitOn hmem

/-- Only pieces at the end are dropped, and these name no step: they are empty or a dot. -/
theorem exists_eq_append_dropIdle (piecesFromEnd : List (List Char)) :
    ∃ idle, piecesFromEnd = idle ++ dropIdle piecesFromEnd := by
  obtain ⟨idle, h⟩ := List.dropWhile_suffix
    (fun piece : List Char => decide (piece = [] ∨ piece = ['.'])) (l := piecesFromEnd)
  exact ⟨idle, h.symm⟩

/-- What remains after idle spellings begins with one that is a step. -/
theorem ne_nil_of_dropIdle_eq_cons {piecesFromEnd above : List (List Char)}
    (h : dropIdle piecesFromEnd = last :: above) : last ≠ [] := by
  have hlast := List.head?_dropWhile_not
    (fun piece : List Char => decide (piece = [] ∨ piece = ['.'])) piecesFromEnd
  rw [dropIdle] at h
  rw [h] at hlast
  rintro rfl
  simp at hlast

/-- A path that starts at the root begins with an empty spelling. -/
theorem eq_nil_of_isAbsolute {rest : List (List Char)} (hpieces : p.pieces = first :: rest)
    (h : p.isAbsolute = true) : first = [] ∧ ∃ more, p.text = "/" ++ more := by
  rw [isAbsolute, beq_iff_eq, List.head?_eq_some_iff] at h
  obtain ⟨cs, hcs⟩ := h
  constructor
  · rw [pieces, hcs, Text.splitOn_eq, Text.splitOn_cons_self] at hpieces
    exact (List.cons.inj hpieces).1.symm
  · refine ⟨String.ofList cs, ?_⟩
    rw [← String.toList_inj, hcs]
    simp

/-- A path begins with the path above it. -/
theorem beginsWith_of_parent? (h : p.parent? = some q) (hq : q.text ≠ "") : p.BeginsWith q := by
  unfold parent? at h
  -- which of three forms the path above has depends on what is left in front of the last step
  split at h
  · cases h
  · next first rest hpieces =>
    split at h
    · split at h
      · cases h
      · exact absurd (congrArg Path.text (Option.some.inj h)).symm hq
    · next last above hlast =>
      obtain ⟨idle, hrest⟩ := exists_eq_append_dropIdle rest.reverse
      obtain ⟨idle', habove⟩ := exists_eq_append_dropIdle above
      rw [hlast, habove, List.reverse_eq_iff] at hrest
      have hstep : last ≠ [] := ne_nil_of_dropIdle_eq_cons hlast
      split at h
      · have hmem : ∃ piece ∈ rest, piece ≠ [] := ⟨last, by simp [hrest], hstep⟩
        by_cases habsolute : p.isAbsolute = true
        · rw [if_pos habsolute] at h
          obtain ⟨rfl, hmore⟩ := eq_nil_of_isAbsolute hpieces habsolute
          rw [← Option.some.inj h]
          exact ⟨hmore, [[]], rest, hpieces, hmem, rfl⟩
        · rw [if_neg habsolute] at h
          have hbegins : p.BeginsWith _ :=
            beginsWith_of_pieces_eq [first] rest (by simp) hpieces hmem
          rw [List.intercalate_singleton] at hbegins
          rwa [Option.some.inj h] at hbegins
      · rw [← Option.some.inj h]
        refine beginsWith_of_pieces_eq _ (idle'.reverse ++ last :: idle.reverse) (by simp) ?_
          ⟨last, by simp, hstep⟩
        rw [hpieces, hrest]
        simp

end Path

/-! ## Files

`exists?_eq_false_of_parent?` is where the first half of this module goes to. A walk to a path
passes the end of the path above, and its next step can only be taken in a directory
(`node?_eq_directory_of_walk`). -/

namespace Files

variable {fs a b : Files} {p q : Path} {place middle : Place} {node : FileNode}

/-- A walk stands somewhere after each of its parts. -/
theorem exists_walk_of_append {start : Place} {front back : List (List Char)}
    (h : fs.walk start (front ++ back) = .ok place) :
    ∃ middle, fs.walk start front = .ok middle ∧ fs.walk middle back = .ok place := by
  induction front generalizing start with
  | nil => exact ⟨start, rfl, h⟩
  | cons piece front ih =>
    rw [List.cons_append] at h
    obtain ⟨next, hstep, hrest⟩ := exists_step_of_walk h
    obtain ⟨middle, hfront, hback⟩ := ih hrest
    refine ⟨middle, ?_, hback⟩
    rw [walk_cons, hstep]
    exact hfront

/-- A step that is more than an empty spelling needs a directory to stand in. -/
theorem node?_eq_directory_of_step {piece : List Char} (hpiece : piece ≠ [])
    (h : fs.step middle piece = .ok place) : fs.node? middle = some .directory := by
  rw [step, if_neg hpiece] at h
  split at h
  · cases h
  · cases h
  · next hnode => exact hnode

/-- A walk that is to go on stands in a directory. -/
theorem node?_eq_directory_of_walk {pieces : List (List Char)}
    (h : fs.walk middle pieces = .ok place) (hstep : ∃ piece ∈ pieces, piece ≠ []) :
    fs.node? middle = some .directory := by
  induction pieces with
  | nil =>
    obtain ⟨piece, hpiece, -⟩ := hstep
    exact absurd hpiece List.not_mem_nil
  | cons first rest ih =>
    by_cases hfirst : first = []
    · rw [walk, if_pos hfirst] at h
      refine ih h ?_
      simpa [hfirst] using hstep
    · obtain ⟨next, htaken, -⟩ := exists_step_of_walk h
      exact node?_eq_directory_of_step hfirst htaken

/-- What is found is at the end of a walk along a path that can be. -/
theorem walk_of_find (h : fs.find p = .ok (place, node)) :
    checkPath p = .ok () ∧ fs.walk (fs.start p) p.pieces = .ok place := by
  cases node with
  | directory =>
    obtain ⟨hcheck, hwalk, -⟩ := find_eq_directory_iff.mp h
    exact ⟨hcheck, hwalk⟩
  | file content =>
    obtain ⟨hcheck, hwalk, -⟩ := find_eq_file_iff.mp h
    exact ⟨hcheck, hwalk⟩

/-- The beginning of a path that can be can be, too. -/
theorem checkPath_of_text_eq {more : String} (hp : checkPath p = .ok ())
    (htext : p.text = q.text ++ more) (hq : q.text ≠ "") : checkPath q = .ok () := by
  unfold checkPath at hp ⊢
  -- a text is refused for a zero byte, for being empty, or for its length, and each of these is
  -- inherited by the longer one
  rw [htext] at hp
  split at hp
  · cases hp
  · next hnul =>
    split at hp
    · cases hp
    · split at hp
      · cases hp
      · next hlong =>
        rw [String.utf8ByteSize_append] at hlong
        have hclean : ¬ q.text.toList.contains '\x00' = true := by
          rw [List.contains_iff_mem] at hnul ⊢
          rw [String.toList_append] at hnul
          exact fun hmem => hnul (List.mem_append_left _ hmem)
        rw [if_neg hclean, if_neg hq, if_neg (by omega)]

/-- Both start from the same place. -/
theorem start_eq_of_text_eq {more : String} (htext : p.text = q.text ++ more) (hq : q.text ≠ "") :
    fs.start q = fs.start p := by
  obtain ⟨c, cs, hchars⟩ := List.exists_cons_of_ne_nil (l := q.text.toList) (by simpa using hq)
  have habsolute : q.isAbsolute = p.isAbsolute := by
    rw [Path.isAbsolute, Path.isAbsolute, htext, String.toList_append, hchars]
    rfl
  rw [start, start, habsolute]

/-- If a path names anything, the path above it names a directory. -/
theorem isDirectory_of_parent? (hfind : fs.find p = .ok (place, node))
    (hparent : p.parent? = some q) (hq : q.text ≠ "") : fs.isDirectory q = true := by
  obtain ⟨⟨more, htext⟩, front, back, hpieces, hstep, hfront⟩ :=
    Path.beginsWith_of_parent? hparent hq
  obtain ⟨hcheck, hwalk⟩ := walk_of_find hfind
  rw [hpieces] at hwalk
  obtain ⟨middle, hwalk, hback⟩ := exists_walk_of_append hwalk
  -- both texts may have empty pieces in different places, and a walk passes over all of them
  rw [← walk_filter, ← hfront, walk_filter, ← start_eq_of_text_eq htext hq] at hwalk
  have hfound : fs.find q = .ok (middle, .directory) :=
    find_eq_directory_iff.mpr ⟨checkPath_of_text_eq hcheck htext hq, hwalk,
      node?_eq_directory_of_walk hback hstep⟩
  rw [isDirectory, hfound]

/-- Under what is no directory nothing is named. -/
theorem exists?_eq_false_of_parent? (hno : fs.isDirectory q = false)
    (hparent : p.parent? = some q) (hq : q.text ≠ "") : fs.exists? p = false := by
  rw [exists?]
  cases hfind : fs.find p with
  | error e => rfl
  | ok found =>
    have hdirectory := isDirectory_of_parent? hfind hparent hq
    rw [hno] at hdirectory
    cases hdirectory

/-- What does not exist is no directory. -/
theorem isDirectory_eq_false_of_exists? (h : fs.exists? p = false) : fs.isDirectory p = false := by
  rw [exists?] at h
  rw [isDirectory]
  cases hfind : fs.find p with
  | error e => rfl
  | ok found =>
    rw [hfind] at h
    cases h

/-- What does not exist is no file. -/
theorem isFile_eq_false_of_exists? (h : fs.exists? p = false) : fs.isFile p = false := by
  rw [exists?] at h
  rw [isFile]
  cases hfind : fs.find p with
  | error e => rfl
  | ok found =>
    rw [hfind] at h
    cases h

/-! ### Creating the path above -/

/-- One path is right above the other, and has to be created for it. -/
def IsAbove (p q : Path) : Prop := p.parent? = some q ∧ q.text ≠ ""

/-- The paths above a path are each right above the one before. -/
theorem isChain_ancestors (n : Nat) (p : Path) : (p :: ancestors n p).IsChain IsAbove := by
  induction n generalizing p with
  | zero => exact .singleton p
  | succ n ih =>
    rw [ancestors]
    split
    · exact .singleton p
    · next above hparent =>
      split
      · exact .singleton p
      -- the chain ends below a path that is empty, which stands for the working directory
      · next hneeded => exact .cons_cons ⟨hparent, (not_or.mp hneeded).1⟩ (ih above)

/-- A directory that is not there after it could not be created is no directory. -/
theorem isDirectory_of_refused {e e' : IoError}
    (h : (if fs.isDirectory p then Except.ok fs else .error (fs, e)) = .error (a, e')) :
    a.isDirectory p = false := by
  split at h
  · cases h
  · next hno =>
    cases h
    exact Bool.eq_false_iff.mpr hno

/-- If the directories on the way to a path cannot be created, the path names no directory. -/
theorem isDirectory_of_createChain_eq_error {above : List Path} {e : IoError}
    (habove : (p :: above).IsChain IsAbove) (h : fs.createChain p above = .error (a, e)) :
    a.isDirectory p = false := by
  induction above generalizing fs p with
  | nil =>
    rw [createChain] at h
    split at h
    · cases h
    · exact isDirectory_of_refused h
  | cons q further ih =>
    rw [List.isChain_cons_cons] at habove
    obtain ⟨⟨hparent, hq⟩, hfurther⟩ := habove
    rw [createChain] at h
    split at h
    · cases h
    · split at h
      · next hfail =>
        -- one of the directories further up is missing
        rw [Except.error.inj h] at hfail
        exact isDirectory_eq_false_of_exists?
          (exists?_eq_false_of_parent? (ih hfurther hfail) hparent hq)
      · split at h
        · cases h
        · exact isDirectory_of_refused h
    · exact isDirectory_of_refused h

/-- Whichever of the directories could not be created, the path names none in the files that are
left. -/
theorem isDirectory_of_createDirectories_eq_error {e : IoError}
    (h : fs.createDirectories p = .error (a, e)) : a.isDirectory p = false := by
  rw [createDirectories] at h
  split at h
  · cases h
  · exact isDirectory_of_createChain_eq_error (isChain_ancestors p.text.length p) h

/-! ### Taking away -/

/-- To take out the rows of one place is to find nothing there, and what was found anywhere else. -/
theorem row?_filter (place other : Place) (rows : List (Place × FileNode)) :
    row? other (rows.filter fun row => row.1 ≠ place)
      = if other = place then none else row? other rows := by
  induction rows with
  | nil => simp [row?]
  | cons row rest ih =>
    obtain ⟨here, found⟩ := row
    by_cases hhere : here = place
    · rw [List.filter_cons_of_neg (by simpa using hhere), ih, row?]
      by_cases hother : other = place
      · rw [if_pos hother, if_pos hother]
      · rw [if_neg hother, if_neg hother, if_neg fun h => hother (h.symm.trans hhere)]
    · rw [List.filter_cons_of_pos (by simpa using hhere), row?, row?, ih]
      -- a row that stays hides the ones behind it, as it did before
      by_cases hsame : here = other
      · rw [if_pos hsame, if_pos hsame, if_neg fun h => hhere (hsame.trans h)]
      · rw [if_neg hsame, if_neg hsame]

/-- Taking something away changes nothing elsewhere. -/
theorem node?_drop (fs : Files) (hplace : place ≠ []) (other : Place) :
    (fs.drop place).node? other = if other = place then none else fs.node? other := by
  unfold node? drop
  by_cases hroot : other = []
  · rw [if_pos hroot, if_pos hroot, hroot, if_neg (Ne.symm hplace)]
  · rw [if_neg hroot, if_neg hroot, row?_filter]

/-- Seen backwards, a file that is taken away is one that is written. -/
theorem grows_drop (hplace : place ≠ []) : Grows (· = place) (fs.drop place) fs := by
  have hkept : ∀ other found, (fs.drop place).node? other = some found →
      fs.node? other = some found := by
    intro other found h
    rw [node?_drop fs hplace] at h
    split at h
    · cases h
    · exact h
  refine ⟨rfl, fun other h => hkept other _ h, fun other c h => ⟨c, hkept other _ h⟩, ?_⟩
  intro other hother c
  rw [node?_drop fs hplace, if_neg hother]

/-- The files without the one that the path names, if it does name one. -/
def cleared (fs : Files) (p : Path) : Files :=
  match fs.remove p with
  | .ok files => files
  | .error _ => fs

/-- Removing a file takes away the place that its path leads to. -/
theorem remove_of_find_file {content : Content} (h : fs.find p = .ok (place, .file content)) :
    fs.remove p = .ok (fs.drop place) := by
  rw [remove, h]
  rfl

/-- What was removed was a file. -/
theorem isFile_of_remove (h : fs.remove p = .ok a) : fs.isFile p = true := by
  obtain ⟨⟨place, found⟩, hfind, h⟩ := exists_of_bind_eq_ok h
  cases found with
  | directory => cases h
  | file content => exact isFile_of_find_file hfind

/-- Then the path names no file any more. -/
theorem isFile_drop {content : Content} (h : fs.find p = .ok (place, .file content)) :
    (fs.drop place).isFile p = false := by
  obtain ⟨-, -, hnode, -⟩ := find_eq_file_iff.mp h
  have hplace : place ≠ [] := by
    rintro rfl
    exact nomatch hnode
  rw [isFile]
  split
  · next place' content' hfind =>
    -- the file would have been where the one was that was taken away
    obtain ⟨_, hfind', -⟩ := (grows_drop hplace).find_file hfind
    rw [h] at hfind'
    cases hfind'
    obtain ⟨-, -, hnode', -⟩ := find_eq_file_iff.mp hfind
    rw [node?_drop fs hplace, if_pos rfl] at hnode'
    cases hnode'
  · rfl

theorem isFile_cleared (fs : Files) (p : Path) : (fs.cleared p).isFile p = false := by
  rw [cleared]
  cases hfile : fs.isFile p with
  | false =>
    cases hremove : fs.remove p with
    | error e => exact hfile
    | ok files =>
      rw [isFile_of_remove hremove] at hfile
      cases hfile
  | true =>
    rw [isFile] at hfile
    split at hfile
    · next hfind =>
      rw [remove_of_find_file hfind]
      exact isFile_drop hfind
    · cases hfile

end Files

end ReleasePipeline
