/-
The directories in an archive.

Above an entry there is a directory for each slash in its name: the name up to and with that slash
(`directoriesAbove_eq`), so above `demo/docs/README.md` there are `demo/` and `demo/docs/`. While an
archive is packed it is remembered which of them are there, so that none is put in twice. What was
remembered is what was put in so far, and this is the invariant that everything here rests on: the
directories of an entry are there when it is put in, either because they were seen before or because
they were put in right above it.

What a format is asked to put in does not depend on the format, nor on the files. It is a list that
can be written down beforehand (`course`), and packing does what it says up to the first failure
(`pack_eq_putAll`). The statements are about this list, and so they hold of zip and tar archives
alike, and of archives that were not packed to their end.
-/
import Mathlib.Data.List.Infix
import Mathlib.Data.List.Nodup
import ReleasePipeline.Archive.Packing
import ReleasePipeline.Proofs.Text.Parts

set_option autoImplicit false

namespace ReleasePipeline.Archive

/-! ## Directories above a name -/

/-- The name of a directory above an entry: what the name of the entry begins with, up to and with
a slash. -/
structure IsAbove (d name : String) : Prop where
  begins : d.toList <+: name.toList
  slash : d.toList.getLast? = some '/'

/-- What is above a directory above an entry is above the entry. -/
theorem IsAbove.trans {outer d name : String} (houter : IsAbove outer d) (hd : IsAbove d name) :
    IsAbove outer name :=
  ⟨houter.begins.trans hd.begins, houter.slash⟩

/-- A character before the next slash is a part of the directory that is being spelled. -/
theorem loop_cons_cons (above : List Char) (c : Char) (part : List Char)
    (parts : List (List Char)) :
    directoriesAbove.loop above ((c :: part) :: parts)
      = directoriesAbove.loop (above ++ [c]) (part :: parts) := by
  cases parts with
  | nil => rfl
  | cons next rest => simp [directoriesAbove.loop]

/-- The directories still to come are what the rest of the name begins with, up to some slash,
behind what was passed. The rest is taken character by character: a slash ends a directory, and what
is none lies in the next. -/
theorem loop_splitOn (above cs : List Char) :
    directoriesAbove.loop above (List.splitOn '/' cs)
      = (cs.inits.filter (·.getLast? = some '/')).map fun p => String.ofList (above ++ p) := by
  induction cs generalizing above with
  | nil => rfl
  | cons c cs ih =>
    obtain ⟨part, parts, hparts⟩ := Text.exists_splitOn_eq_cons '/' cs
    have hlater := ih (above ++ [c])
    rw [hparts] at hlater
    -- the slash completes a directory, which is the first of those to come
    by_cases hc : c = '/'
    · have hstep : directoriesAbove.loop above ([] :: part :: parts)
          = String.ofList (above ++ [c])
            :: directoriesAbove.loop (above ++ [c]) (part :: parts) := by
        rw [directoriesAbove.loop, List.append_nil, hc]
        exact List.cons_ne_nil part parts
      rw [hc, Text.splitOn_cons_self, hparts, hstep, hlater]
      cases cs <;> simp [List.filter_map, Function.comp_def, hc]
    · rw [Text.splitOn_cons_of_ne hc hparts, loop_cons_cons, hlater]
      cases cs <;> simp [List.filter_map, Function.comp_def, hc]

/-- The directories above a name are what it begins with, up to some slash, from the outside in. -/
theorem directoriesAbove_eq (name : String) :
    directoriesAbove name
      = (name.toList.inits.filter (·.getLast? = some '/')).map String.ofList := by
  rw [directoriesAbove, Text.splitOn_eq, loop_splitOn]
  rfl

/-- The list holds the directories above the name and no others. -/
theorem mem_directoriesAbove_iff {d name : String} :
    d ∈ directoriesAbove name ↔ IsAbove d name := by
  rw [directoriesAbove_eq, List.mem_map]
  constructor
  · rintro ⟨p, hp, rfl⟩
    rw [List.mem_filter, List.mem_inits, decide_eq_true_iff] at hp
    rw [← String.toList_ofList (l := p)] at hp
    exact ⟨hp.1, hp.2⟩
  · intro h
    refine ⟨d.toList, ?_, String.ofList_toList⟩
    rw [List.mem_filter, List.mem_inits, decide_eq_true_iff]
    exact ⟨h.begins, h.slash⟩

/-- The beginnings of a text come in the order of their lengths, each a proper beginning of all that
follow. -/
theorem pairwise_inits (cs : List Char) : cs.inits.Pairwise fun p q => p <+: q ∧ p ≠ q := by
  induction cs with
  | nil => exact List.pairwise_singleton _ _
  | cons c cs ih =>
    rw [List.inits_cons, List.pairwise_cons, List.pairwise_map]
    constructor
    · intro q hq
      obtain ⟨p, -, rfl⟩ := List.mem_map.mp hq
      exact ⟨List.nil_prefix, (List.cons_ne_nil c p).symm⟩
    · refine ih.imp fun h => ⟨(List.prefix_cons_inj c).mpr h.1, fun heq => ?_⟩
      exact h.2 (List.cons.inj heq).2

/-- Each of them is a part of the name of the next. -/
theorem pairwise_directoriesAbove (name : String) :
    (directoriesAbove name).Pairwise fun outer d => outer.toList <+: d.toList ∧ outer ≠ d := by
  rw [directoriesAbove_eq, List.pairwise_map]
  refine ((pairwise_inits _).filter _).imp fun h => ?_
  rw [String.toList_ofList, String.toList_ofList]
  exact ⟨h.1, fun heq => h.2 (String.ofList_injective heq)⟩

/-! ## New directories

What is put in for an entry besides the entry: those of the directories above it that were not seen
yet. -/

variable {seen : List String} {name d : String}

/-- A directory is new if it is above the name and was not seen. -/
theorem mem_newDirectories_iff :
    d ∈ (newDirectories seen name).1 ↔ IsAbove d name ∧ d ∉ seen := by
  rw [newDirectories, List.mem_filter, mem_directoriesAbove_iff]
  simp

/-- What is there together with what is new is what was there and what is above the name. -/
theorem mem_append_newDirectories_iff :
    d ∈ seen ++ (newDirectories seen name).1 ↔ d ∈ seen ∨ IsAbove d name := by
  rw [List.mem_append, mem_newDirectories_iff]
  by_cases hseen : d ∈ seen <;> simp [hseen]

/-- What was remembered has no directory twice, before and after. -/
theorem nodup_append_newDirectories (hseen : seen.Nodup) (name : String) :
    (seen ++ (newDirectories seen name).1).Nodup := by
  have hnew : (newDirectories seen name).1.Nodup :=
    ((pairwise_directoriesAbove name).filter _).imp fun h => h.2
  refine hseen.append hnew fun d hold hd => ?_
  exact (mem_newDirectories_iff.mp hd).2 hold

/-! ## What is put in

The course is the plan of packing, before a file was looked at: which directories and which files
are to be put in, one after the other. -/

/-- One thing that is put into an archive. -/
inductive Put where
  | directory (name : String)
  | file (name : String) (source : Path)
  deriving DecidableEq

namespace Put

/-- The name of a directory. -/
def directory? : Put → Option String
  | directory d => some d
  | file _ _ => none

/-- The name of a file, and what it is copied from. -/
def file? : Put → Option (String × Path)
  | directory _ => none
  | file name source => some (name, source)

/-- The directories that have to be there before. -/
def Needs : Put → String → Prop
  | directory d, outer => IsAbove outer d ∧ outer ≠ d
  | file name _, d => IsAbove d name

end Put

/-- The directories among what is put in. -/
def directories (puts : List Put) : List String := puts.filterMap Put.directory?

@[simp] theorem directories_nil : directories [] = [] := rfl

@[simp] theorem directories_append (xs ys : List Put) :
    directories (xs ++ ys) = directories xs ++ directories ys := List.filterMap_append

@[simp] theorem directories_map (ds : List String) : directories (ds.map .directory) = ds := by
  rw [directories, List.filterMap_map]
  exact List.filterMap_some

@[simp] theorem directories_file_cons (name : String) (source : Path) (puts : List Put) :
    directories (.file name source :: puts) = directories puts := rfl

/-- What is put in for files under names, in order; `seen` are the directories that are there
already. -/
def course (seen : List String) : List (String × Path) → List Put
  | [] => []
  | (name, source) :: rest =>
    let (new, seen) := newDirectories seen name
    new.map .directory ++ .file name source :: course seen rest

/-- For the first source, its new directories and the file; for the others, the same with more
directories seen. -/
theorem course_cons (seen : List String) (name : String) (source : Path)
    (rest : List (String × Path)) :
    course seen ((name, source) :: rest)
      = (newDirectories seen name).1.map .directory
        ++ .file name source :: course (seen ++ (newDirectories seen name).1) rest := rfl

/-! ### Packing -/

namespace Format

variable (format : Format) (fs : Files)

/-- Puts in one thing. -/
def put : Put → Packed
  | .directory d => format.packDirectory d
  | .file name source => format.packFile fs name source

/-- Puts in one thing after the other, up to the first failure. -/
def putAll : List Put → Packed
  | [] => {}
  | p :: rest => (format.put fs p).andThen (putAll rest)

end Format

/-- Packing that has not begun goes on as it begins. -/
theorem Packed.empty_andThen (q : Packed) : andThen {} q = q := rfl

/-- In three stretches the packing stops at the first failure, whichever two of them are taken
together. -/
theorem Packed.andThen_assoc (p q r : Packed) :
    (p.andThen q).andThen r = p.andThen (q.andThen r) := by
  -- if the first stretch stopped, neither of the others was begun
  cases hp : p.failure? with
  | some f => simp only [andThen, hp]
  | none =>
    cases hq : q.failure? with
    | some f => simp only [andThen, hp, hq]
    | none => simp only [andThen, hp, hq, List.append_assoc]

namespace Format

variable {format : Format} {fs : Files}

/-- What is put in stretch by stretch. -/
theorem putAll_append (xs ys : List Put) :
    format.putAll fs (xs ++ ys) = (format.putAll fs xs).andThen (format.putAll fs ys) := by
  induction xs with
  | nil => exact (Packed.empty_andThen _).symm
  | cons p xs ih => rw [List.cons_append, putAll, ih, putAll, Packed.andThen_assoc]

/-- Directories are put in one by one, like everything else. -/
theorem packDirectories_eq_putAll (ds : List String) :
    format.packDirectories ds = format.putAll fs (ds.map .directory) := by
  induction ds with
  | nil => rfl
  | cons d rest ih =>
    rw [packDirectories, ih]
    rfl

/-- Packing puts in what is on the course, in its order. -/
theorem pack_eq_putAll (seen : List String) (sources : List (String × Path)) :
    format.pack fs seen sources = format.putAll fs (course seen sources) := by
  induction sources generalizing seen with
  | nil => rfl
  | cons source rest ih =>
    obtain ⟨name, path⟩ := source
    rw [course_cons, putAll_append, ← packDirectories_eq_putAll, putAll, ← ih]
    rfl

end Format

/-! ### Every directory once -/

/-- No source is left out, none is added, and they keep their order. -/
theorem filterMap_file?_course (seen : List String) (sources : List (String × Path)) :
    (course seen sources).filterMap Put.file? = sources := by
  induction sources generalizing seen with
  | nil => rfl
  | cons source rest ih =>
    obtain ⟨name, path⟩ := source
    -- directories are no files, however many of them come before one
    have hnone (ds : List String) : (ds.map Put.directory).filterMap Put.file? = [] := by
      rw [List.filterMap_map]
      exact List.filterMap_eq_nil_iff.mpr fun _ _ => rfl
    have hfile : Put.file? (.file name path) = some (name, path) := rfl
    rw [course_cons, List.filterMap_append, hnone, List.nil_append, List.filterMap_cons_some hfile,
      ih]

/-- Of an entry the directories that are new are put in, and then those of the entries behind it. -/
theorem directories_course_cons (name : String) (source : Path)
    (rest : List (String × Path)) :
    directories (course seen ((name, source) :: rest))
      = (newDirectories seen name).1
        ++ directories (course (seen ++ (newDirectories seen name).1) rest) := by
  rw [course_cons, directories_append, directories_map, directories_file_cons]

/-- Whatever was seen without repetition, the directories of the course add nothing that is there
already. The induction is on the sources, and what was seen grows from one to the next. -/
theorem nodup_append_directories (hseen : seen.Nodup) (sources : List (String × Path)) :
    (seen ++ directories (course seen sources)).Nodup := by
  induction sources generalizing seen with
  | nil => exact (List.append_nil seen).symm ▸ hseen
  | cons source rest ih =>
    rw [directories_course_cons, ← List.append_assoc]
    exact ih (nodup_append_newDirectories hseen source.1)

/-- What is there in the end was seen at the start or lies above a source. One of the two is said of
each directory, and so nothing that is needed is missing. -/
theorem mem_append_directories_iff {sources : List (String × Path)} :
    d ∈ seen ++ directories (course seen sources)
      ↔ d ∈ seen ∨ ∃ source ∈ sources, IsAbove d source.1 := by
  induction sources generalizing seen with
  | nil => simp [course, directories]
  | cons source rest ih =>
    rw [directories_course_cons, ← List.append_assoc, ih, mem_append_newDirectories_iff]
    simp only [List.exists_mem_cons_iff, or_assoc]

/-! ### Every directory first -/

/-- Whatever is put in, the directories that it needs are there, or were put in before. -/
def InOrder (there : List String) (puts : List Put) : Prop :=
  ∀ before p after, puts = before ++ p :: after → ∀ d, p.Needs d → d ∈ there ++ directories before

namespace InOrder

variable {there : List String} {xs ys : List Put}

/-- Where nothing is put in, nothing is needed. -/
theorem nil : InOrder there [] := by
  intro before p after hsplit
  exact absurd hsplit.symm (List.append_ne_nil_of_right_ne_nil before (List.cons_ne_nil p after))

/-- A file may be put in when the directories above it are there, and then what follows may count on
no more than before. -/
theorem file_cons {name : String} {source : Path} (hname : ∀ d, IsAbove d name → d ∈ there)
    (hys : InOrder there ys) : InOrder there (.file name source :: ys) := by
  intro before p after hsplit d hd
  cases before with
  | nil =>
    obtain ⟨rfl, -⟩ := List.cons.inj hsplit
    exact List.mem_append_left _ (hname d hd)
  | cons q before =>
    obtain ⟨rfl, hrest⟩ := List.cons.inj hsplit
    exact hys before p after hrest d hd

/-- Two stretches one after the other, the second with the directories of the first. -/
theorem append (hxs : InOrder there xs) (hys : InOrder (there ++ directories xs) ys) :
    InOrder there (xs ++ ys) := by
  intro before p after hsplit d hd
  -- the thing that needs something is in the second stretch, is its first, or is in the first one
  rcases List.append_eq_append_iff.mp hsplit with ⟨mid, rfl, hmid⟩ | ⟨mid, rfl, hmid⟩
  · rw [directories_append, ← List.append_assoc]
    exact hys mid p after hmid d hd
  · cases mid with
    | nil =>
      have hfirst := hys [] p after hmid.symm d hd
      rwa [List.append_nil, directories_nil, List.append_nil] at hfirst
    | cons q mid =>
      obtain ⟨rfl, -⟩ := List.cons.inj hmid
      exact hxs before p mid rfl d hd

end InOrder

/-- The new directories above a name come from the outside in. -/
theorem inOrder_newDirectories (seen : List String) (name : String) :
    InOrder seen ((newDirectories seen name).1.map .directory) := by
  intro before p after hsplit outer houter
  -- cut the list at the directory in question: `front` was put in before it
  obtain ⟨front, back, hnew, rfl, hback⟩ := List.map_eq_append_iff.mp hsplit
  obtain ⟨d, inner, rfl, rfl, -⟩ := List.map_eq_cons_iff.mp hback
  obtain ⟨habove, hne⟩ := houter
  have hd : d ∈ (newDirectories seen name).1 := by rw [hnew]; simp
  rw [directories_map]
  -- the outer directory is there, or new as well, and then it does not come later
  have hmem : outer ∈ seen ++ (newDirectories seen name).1 :=
    mem_append_newDirectories_iff.mpr (.inr (habove.trans (mem_newDirectories_iff.mp hd).1))
  have hpairwise : (newDirectories seen name).1.Pairwise
      fun outer d => outer.toList <+: d.toList ∧ outer ≠ d :=
    (pairwise_directoriesAbove name).filter _
  rw [hnew, List.pairwise_append, List.pairwise_cons] at hpairwise
  rw [hnew, List.mem_append, List.mem_append, List.mem_cons] at hmem
  rcases hmem with hmem | hmem | heq | hmem
  · exact List.mem_append_left _ hmem
  · exact List.mem_append_right _ hmem
  · exact absurd heq hne
  · have hlater := (hpairwise.2.1.1 outer hmem).1
    exact absurd (String.toList_injective (habove.begins.eq_of_length
      (habove.begins.length_le.antisymm hlater.length_le))) hne

/-- By induction on the sources: what was remembered when a source has its turn is what was there at
the start and what was put in since. -/
theorem inOrder_course (seen : List String) (sources : List (String × Path)) :
    InOrder seen (course seen sources) := by
  induction sources generalizing seen with
  | nil => exact .nil
  | cons source rest ih =>
    obtain ⟨name, path⟩ := source
    rw [course_cons]
    refine (inOrder_newDirectories seen name).append ?_
    rw [directories_map]
    exact .file_cons (fun d hd => mem_append_newDirectories_iff.mpr (.inr hd)) (ih _)

/-- **Every directory once, and before what is in it.** Packing, in whatever format, puts in what is
on a course that only the names decide. The files on it are the sources, in their order. The
directories on it are those above the files, that is, what their names begin with up to and with a
slash, and each is put in once. When a file is put in, all directories above it were put in before,
and when a directory is, all directories around it were. -/
theorem directories_once_and_first (format : Format) (fs : Files) (sources : List (String × Path)) :
    let puts := course [] sources
    format.pack fs [] sources = format.putAll fs puts ∧
    puts.filterMap Put.file? = sources ∧
    (directories puts).Nodup ∧
    (∀ d, d ∈ directories puts ↔ ∃ source ∈ sources, IsAbove d source.1) ∧
    ∀ before p after, puts = before ++ p :: after → ∀ d, p.Needs d → d ∈ directories before := by
  intro puts
  have hmem (d : String) := @mem_append_directories_iff [] d sources
  have horder := inOrder_course [] sources
  refine ⟨format.pack_eq_putAll [] sources, filterMap_file?_course [] sources,
    nodup_append_directories List.nodup_nil sources, fun d => ?_, horder⟩
  simpa using hmem d

/-- Directories that two files share, one inside another, and a slash too many. -/
example : course [] [("demo/docs/README.md", ⟨"README.md"⟩), ("demo//bin", ⟨"bin"⟩)]
    = [.directory "demo/", .directory "demo/docs/", .file "demo/docs/README.md" ⟨"README.md"⟩,
        .directory "demo//", .file "demo//bin" ⟨"bin"⟩] := by decide +kernel

end ReleasePipeline.Archive
