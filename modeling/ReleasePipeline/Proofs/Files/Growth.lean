/-
What a tree of files keeps while directories are created and files are written.

Creating a directory puts one where nothing was, and writing a file puts one where no directory
was. So whatever a path named before, it names the same place after, and there is still a
directory there, or still a file (`Grows`). What a file holds can only have changed at the places
that were written, and no file has come to be anywhere else.

A walk is looked at step by step: a step needs a directory to stand in and nothing else of the
tree (`Grows.step`), and empty steps do not count. So the place at which a file is written is the
one that its path names from then on (`exists_place_of_write`).
-/
import ReleasePipeline.Files

set_option autoImplicit false

namespace ReleasePipeline

/-- If two steps taken together succeed, the first one does, and then the second. -/
theorem exists_of_bind_eq_ok {ε α β : Type} {x : Except ε α} {f : α → Except ε β} {b : β}
    (h : x >>= f = .ok b) : ∃ a, x = .ok a ∧ f a = .ok b := by
  cases x with
  | error e => cases h
  | ok a => exact ⟨a, rfl, h⟩

namespace Files

/-! ## Walking -/

section Walking

variable (fs : Files) (place : Place) (piece : List Char) (rest : List (List Char))

/-- One step of a walk. -/
def step : Except IoError Place :=
  if piece = [] then .ok place
  else
    match fs.node? place with
    | none => .error .notFound
    | some (.file _) => .error .notADirectory
    | some .directory =>
      if piece = ['.'] then .ok place
      else if piece = ['.', '.'] then .ok place.tail
      else if maxNameBytes < (String.ofList piece).utf8ByteSize then .error .nameTooLong
      else .ok (String.ofList piece :: place)

theorem walk_cons : fs.walk place (piece :: rest) =
    match fs.step place piece with
    | .error e => .error e
    | .ok next => fs.walk next rest := by
  rw [walk, step]
  by_cases hempty : piece = []
  · rw [if_pos hempty, if_pos hempty]
  · rw [if_neg hempty, if_neg hempty]
    cases fs.node? place with
    | none => rfl
    | some node =>
      cases node with
      | file c => rfl
      | directory =>
        dsimp only
        by_cases hhere : piece = ['.']
        · rw [if_pos hhere, if_pos hhere]
        · rw [if_neg hhere, if_neg hhere]
          by_cases hup : piece = ['.', '.']
          · rw [if_pos hup, if_pos hup]
          · rw [if_neg hup, if_neg hup]
            split <;> rfl

/-- A walk that succeeds takes its first step. -/
theorem exists_step_of_walk {fs : Files} {place last : Place} {piece : List Char}
    {rest : List (List Char)} (h : fs.walk place (piece :: rest) = .ok last) :
    ∃ next, fs.step place piece = .ok next ∧ fs.walk next rest = .ok last := by
  rw [walk_cons] at h
  cases hstep : fs.step place piece with
  | error e =>
    rw [hstep] at h
    cases h
  | ok next =>
    rw [hstep] at h
    exact ⟨next, rfl, h⟩

/-- Empty spellings are passed over. -/
theorem walk_filter (pieces : List (List Char)) :
    fs.walk place (pieces.filter (· ≠ [])) = fs.walk place pieces := by
  induction pieces generalizing place with
  | nil => rfl
  | cons piece rest ih =>
    by_cases hempty : piece = []
    · rw [List.filter_cons_of_neg (by simpa using hempty), ih, walk, if_pos hempty]
    · rw [List.filter_cons_of_pos (by simpa using hempty), walk_cons, walk_cons]
      simp only [ih]

/-- A walk is taken up where it was left. -/
theorem walk_append {middle : Place} {pieces : List (List Char)} (more : List (List Char))
    (h : fs.walk place pieces = .ok middle) :
    fs.walk place (pieces ++ more) = fs.walk middle more := by
  induction pieces generalizing place with
  | nil =>
    cases h
    rfl
  | cons piece rest ih =>
    obtain ⟨next, hstep, hrest⟩ := exists_step_of_walk h
    rw [List.cons_append, walk_cons, hstep]
    exact ih next hrest

end Walking

/-! ## Growing -/

/-- One tree comes from another by creating directories and writing files, the latter at places of
which `Written` holds. -/
structure Grows (Written : Place → Prop) (a b : Files) : Prop where
  workingDirectory : b.workingDirectory = a.workingDirectory
  directory : ∀ place, a.node? place = some .directory → b.node? place = some .directory
  file : ∀ place c, a.node? place = some (.file c) → ∃ c', b.node? place = some (.file c')
  unwritten : ∀ place, ¬Written place → ∀ c,
    b.node? place = some (.file c) ↔ a.node? place = some (.file c)

namespace Grows

variable {Written More : Place → Prop} {a b c : Files} {p : Path} {start place : Place}
  {content : Content}

/-- Doing nothing is growing. -/
theorem refl (a : Files) : Grows Written a a where
  workingDirectory := rfl
  directory _ h := h
  file _ content h := ⟨content, h⟩
  unwritten _ _ _ := Iff.rfl

/-- So is growing twice. -/
theorem trans (h₁ : Grows Written a b) (h₂ : Grows Written b c) : Grows Written a c where
  workingDirectory := h₂.workingDirectory.trans h₁.workingDirectory
  directory place h := h₂.directory place (h₁.directory place h)
  file place content h := by
    obtain ⟨content', h⟩ := h₁.file place content h
    exact h₂.file place content' h
  unwritten place hplace content :=
    (h₂.unwritten place hplace content).trans (h₁.unwritten place hplace content)

/-- It is no harm to allow more places to be written. -/
theorem mono (h : Grows Written a b) (hmore : ∀ place, Written place → More place) :
    Grows More a b where
  workingDirectory := h.workingDirectory
  directory := h.directory
  file := h.file
  unwritten place hplace := h.unwritten place fun hwritten => hplace (hmore place hwritten)

/-! ### What paths name -/

/-- A step that could be taken can be taken still: its directory is still there. -/
theorem step {piece : List Char} (h : Grows Written a b) (hstep : a.step start piece = .ok place) :
    b.step start piece = .ok place := by
  unfold Files.step at hstep ⊢
  by_cases hempty : piece = []
  · rwa [if_pos hempty] at hstep ⊢
  · rw [if_neg hempty] at hstep ⊢
    cases hnode : a.node? start with
    | none =>
      rw [hnode] at hstep
      cases hstep
    | some node =>
      rw [hnode] at hstep
      cases node with
      | file content => cases hstep
      | directory =>
        rw [h.directory start hnode]
        exact hstep

/-- A walk that leads somewhere leads there still. -/
theorem walk {pieces : List (List Char)} (h : Grows Written a b)
    (hwalk : a.walk start pieces = .ok place) : b.walk start pieces = .ok place := by
  induction pieces generalizing start with
  | nil => exact hwalk
  | cons piece rest ih =>
    -- step by step the walk stands at the same places in both trees
    obtain ⟨next, hstep, hrest⟩ := exists_step_of_walk hwalk
    rw [walk_cons, h.step hstep]
    exact ih hrest

/-- Paths start where they started, since the working directory stays. -/
theorem start_eq (h : Grows Written a b) (p : Path) : b.start p = a.start p := by
  rw [start, start, h.workingDirectory]

end Grows

/-! ### Finding -/

section Finding

variable {Written : Place → Prop} {fs a b : Files} {p : Path} {place : Place} {content : Content}

/-- What it takes for a path to name a directory. -/
theorem find_eq_directory_iff : fs.find p = .ok (place, .directory) ↔
    checkPath p = .ok () ∧ fs.walk (fs.start p) p.pieces = .ok place ∧
      fs.node? place = some .directory := by
  constructor
  · intro h
    obtain ⟨_, hcheck, h⟩ := exists_of_bind_eq_ok h
    obtain ⟨found, hwalk, h⟩ := exists_of_bind_eq_ok h
    split at h
    · cases h
    · next hnode =>
      cases h
      exact ⟨hcheck, hwalk, hnode⟩
    · split at h <;> cases h
  · rintro ⟨hcheck, hwalk, hnode⟩
    simp only [find, hcheck, hwalk, bind, Except.bind, hnode]

/-- What it takes for a path to name a file. -/
theorem find_eq_file_iff : fs.find p = .ok (place, .file content) ↔
    checkPath p = .ok () ∧ fs.walk (fs.start p) p.pieces = .ok place ∧
      fs.node? place = some (.file content) ∧ p.endsInSlash = false := by
  constructor
  · intro h
    obtain ⟨_, hcheck, h⟩ := exists_of_bind_eq_ok h
    obtain ⟨found, hwalk, h⟩ := exists_of_bind_eq_ok h
    split at h
    · cases h
    · cases h
    · next hnode =>
      split at h
      · cases h
      · next hslash =>
        cases h
        exact ⟨hcheck, hwalk, hnode, Bool.eq_false_iff.mpr hslash⟩
  · rintro ⟨hcheck, hwalk, hnode, hslash⟩
    simp only [find, hcheck, hwalk, bind, Except.bind, hnode, hslash]
    rfl

/-- What was opened was found. -/
theorem exists_find_of_openNode {node : FileNode} (h : fs.openNode p = .ok node) :
    ∃ place, fs.find p = .ok (place, node) := by
  obtain ⟨⟨place, found⟩, hfind, h⟩ := exists_of_bind_eq_ok h
  cases h
  exact ⟨place, hfind⟩

/-- What can be read is a file that the path names. -/
theorem read_eq_ok_iff :
    fs.read p = .ok content ↔ ∃ place, fs.find p = .ok (place, .file content) := by
  constructor
  · intro h
    obtain ⟨node, hopen, h⟩ := exists_of_bind_eq_ok h
    cases node with
    | directory => cases h
    | file c =>
      cases h
      exact exists_find_of_openNode hopen
  · rintro ⟨place, hfind⟩
    rw [read, openNode, hfind]
    rfl

/-- A path that leads to a file names one. -/
theorem isFile_of_find_file (h : fs.find p = .ok (place, .file content)) : fs.isFile p = true := by
  rw [isFile, h]

/-- A path that leads to a directory names no file. -/
theorem isFile_of_find_directory (h : fs.find p = .ok (place, .directory)) :
    fs.isFile p = false := by
  rw [isFile, h]

/-- A path that names a directory names it still. -/
theorem Grows.find_directory (h : Grows Written a b) (hfind : a.find p = .ok (place, .directory)) :
    b.find p = .ok (place, .directory) := by
  obtain ⟨hcheck, hwalk, hnode⟩ := find_eq_directory_iff.mp hfind
  rw [← h.start_eq] at hwalk
  exact find_eq_directory_iff.mpr ⟨hcheck, h.walk hwalk, h.directory place hnode⟩

/-- A path that names a file names it still, and unless the place was written, the file holds what
it held. -/
theorem Grows.find_file (h : Grows Written a b) (hfind : a.find p = .ok (place, .file content)) :
    ∃ content', b.find p = .ok (place, .file content') ∧ (¬Written place → content' = content) := by
  obtain ⟨hcheck, hwalk, hnode, hslash⟩ := find_eq_file_iff.mp hfind
  rw [← h.start_eq] at hwalk
  obtain ⟨content', hnode'⟩ := h.file place content hnode
  refine ⟨content', find_eq_file_iff.mpr ⟨hcheck, h.walk hwalk, hnode', hslash⟩, fun hplace => ?_⟩
  have hkept := (h.unwritten place hplace content').mp hnode'
  rw [hnode] at hkept
  cases hkept
  rfl

/-- A path names what it named, unless that is at a place that was written. -/
theorem Grows.find_unwritten {node : FileNode} (h : Grows Written a b)
    (hfind : a.find p = .ok (place, node)) (hplace : ¬Written place) :
    b.find p = .ok (place, node) := by
  cases node with
  | directory => exact h.find_directory hfind
  | file content =>
    obtain ⟨content', hfind', hsame⟩ := h.find_file hfind
    rw [hfind', hsame hplace]

/-- So what is opened by a path is the same, unless it is at a place that was written. -/
theorem Grows.openNode_eq {node : FileNode} (h : Grows Written a b)
    (hfind : a.find p = .ok (place, node)) (hplace : ¬Written place) :
    b.openNode p = a.openNode p := by
  rw [openNode, openNode, hfind, h.find_unwritten hfind hplace]

end Finding

/-! ### Names of files -/

section Names

variable {Written : Place → Prop} {fs a b : Files} {p : Path} {place place' : Place}

/-- The path names a file at the place. -/
def Names (fs : Files) (p : Path) (place : Place) : Prop :=
  ∃ content, fs.find p = .ok (place, .file content)

/-- A path names a file at one place only. -/
theorem Names.unique (h : fs.Names p place) (h' : fs.Names p place') : place = place' := by
  obtain ⟨content, hfind⟩ := h
  obtain ⟨content', hfind'⟩ := h'
  rw [hfind] at hfind'
  cases hfind'
  rfl

/-- And it names it there still. -/
theorem Grows.names (h : Grows Written a b) (hnames : a.Names p place) : b.Names p place := by
  obtain ⟨content, hfind⟩ := hnames
  obtain ⟨content', hfind', -⟩ := h.find_file hfind
  exact ⟨content', hfind'⟩

end Names

/-! ## Creating and writing

Two changes are made to a tree, `put` of a directory where nothing was and `put` of a file where no
directory is. Everything else that changes a tree is made of them. -/

section Changing

variable {fs a b : Files} {p : Path} {place : Place} {content : Content}

/-- What is no directory is not at the root. -/
theorem ne_nil_of_node?_ne_directory (h : fs.node? place ≠ some .directory) : place ≠ [] := by
  rintro rfl
  exact h rfl

/-- A directory where nothing was takes nothing away. -/
theorem grows_put_directory {Written : Place → Prop} (h : fs.node? place = none) :
    Grows Written fs (fs.put place .directory) := by
  have hplace : place ≠ [] := ne_nil_of_node?_ne_directory fun hnode => nomatch h.symm.trans hnode
  refine ⟨rfl, fun other hnode => ?_, fun other content hnode => ⟨content, ?_⟩,
    fun other _ content => ?_⟩
  all_goals rw [node?_put fs _ hplace]
  · by_cases hother : other = place
    · rw [if_pos hother]
    · rwa [if_neg hother]
  · have hother : other ≠ place := by
      rintro rfl
      rw [h] at hnode
      cases hnode
    rwa [if_neg hother]
  · by_cases hother : other = place
    · rw [if_pos hother, hother, h]
      exact ⟨nofun, nofun⟩
    · rw [if_neg hother]

/-- A file where no directory is takes away at most what was in a file there. -/
theorem grows_put_file (h : fs.node? place ≠ some .directory) :
    Grows (· = place) fs (fs.put place (.file content)) := by
  have hplace : place ≠ [] := ne_nil_of_node?_ne_directory h
  refine ⟨rfl, fun other hnode => ?_, fun other old hnode => ?_, fun other hother _ => ?_⟩
  all_goals rw [node?_put fs _ hplace]
  · have hother : other ≠ place := by
      rintro rfl
      exact h hnode
    rwa [if_neg hother]
  · by_cases hother : other = place
    · exact ⟨content, if_pos hother⟩
    · exact ⟨old, (if_neg hother).trans hnode⟩
  · rw [if_neg hother]

/-! ### Directories -/

/-- A directory is created only where nothing was. -/
theorem grows_createDirectory {Written : Place → Prop} (h : a.createDirectory p = .ok b) :
    Grows Written a b := by
  obtain ⟨_, hcheck, h⟩ := exists_of_bind_eq_ok h
  obtain ⟨found, hfound, h⟩ := exists_of_bind_eq_ok h
  cases found with
  | none => cases h
  | some place =>
    cases hnode : a.node? place with
    | some node =>
      simp only [hnode] at h
      cases h
    | none =>
      simp only [hnode] at h
      cases h
      exact grows_put_directory hnode

/-- The files that creating directories left, whether it failed or not. -/
def left : Except (Files × IoError) Files → Files
  | .ok fs => fs
  | .error (fs, _) => fs

/-- Directories on the way up are created from the outermost, and whichever fails, the ones before
it stay. -/
theorem grows_createChain {Written : Place → Prop} (fs : Files) (p : Path) (above : List Path) :
    Grows Written fs (left (fs.createChain p above)) := by
  induction above generalizing p with
  | nil =>
    rw [createChain]
    split
    · next hcreate => exact grows_createDirectory hcreate
    · split <;> exact .refl fs
  | cons above further ih =>
    rw [createChain]
    split
    · next hcreate => exact grows_createDirectory hcreate
    · have habove := ih above
      split
      · next hfail =>
        rw [hfail] at habove
        exact habove
      · next made hmade =>
        rw [hmade] at habove
        split
        · next hcreate => exact habove.trans (grows_createDirectory hcreate)
        · split <;> exact habove
    · split <;> exact .refl fs

/-- So creating directories never takes away or writes a file, whether it succeeds or fails. -/
theorem grows_createDirectories {Written : Place → Prop} (fs : Files) (p : Path) :
    Grows Written fs (left (fs.createDirectories p)) := by
  rw [createDirectories]
  split
  · exact .refl fs
  · exact grows_createChain fs p _

/-! ### Files -/

/-- Where a new file would be put is where its path leads to, once it is there. -/
theorem walk_of_findNew (h : fs.findNew p p.pieces = .ok (some place)) :
    fs.walk (fs.start p) p.pieces = .ok place := by
  unfold findNew at h
  dsimp only at h
  split at h
  · cases h
  · next last hlast =>
    obtain ⟨parent, hparent, h⟩ := exists_of_bind_eq_ok h
    split at h
    · cases h
    · cases h
    · next hnode =>
      split at h
      · cases h
      · next hname =>
        obtain ⟨hhere, hup⟩ := not_or.mp hname
        split at h
        · cases h
        · next hroom =>
          cases h
          have hstep : fs.step parent last = .ok (String.ofList last :: parent) := by
            have hlast : last ≠ [] := by
              simpa using (List.mem_filter.mp (List.mem_of_getLast? hlast)).2
            rw [step, if_neg hlast, hnode]
            dsimp only
            rw [if_neg hhere, if_neg hup, if_neg hroom]
          -- the directory was reached by all pieces but the last, and the last is the step that was
          -- not taken
          obtain ⟨before, hsplit⟩ := List.getLast?_eq_some_iff.mp hlast
          rw [hsplit, List.dropLast_concat] at hparent
          rw [← walk_filter, hsplit, walk_append fs _ [last] hparent, walk_cons, hstep]
          rfl

/-- A file is written at one place, and that is the place its path names from then on. -/
theorem exists_place_of_write (h : a.write p content = .ok b) :
    ∃ place, Grows (· = place) a b ∧ b.find p = .ok (place, .file content) := by
  obtain ⟨_, hcheck, h⟩ := exists_of_bind_eq_ok h
  obtain ⟨found, hfound, h⟩ := exists_of_bind_eq_ok h
  cases found with
  | none => cases h
  | some place =>
    dsimp only at h
    split at h
    · cases h
    · next hslash =>
      split at h
      · cases h
      · next hnode =>
        cases h
        -- the place is either free or that of a file, so this is one of the two changes
        have hgrows : Grows (· = place) a (a.put place (.file content)) := grows_put_file hnode
        refine ⟨place, hgrows, find_eq_file_iff.mpr ⟨hcheck, ?_, ?_, Bool.eq_false_iff.mpr hslash⟩⟩
        · rw [hgrows.start_eq]
          exact hgrows.walk (walk_of_findNew hfound)
        · rw [node?_put a _ (ne_nil_of_node?_ne_directory hnode), if_pos rfl]

end Changing

end Files

end ReleasePipeline
