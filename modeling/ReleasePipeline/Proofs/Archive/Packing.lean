/-
What is in an archive that was packed to its end.

The formats look at their sources at different times and spell names in different ways. A zip
archive has the entry before its file is read, and a tar archive asks what the source is before it
has an entry; a tar archive takes a directory where a file was expected, and a zip archive fails.
What they have in common, once nothing went wrong, is said in one place (`Format.Faithful`): a
source that is a file becomes one file in the archive, with the name as the format spells it and the
content that the source has while the archive is packed, and a source that is a directory becomes
none. The directories that are put in above a file are of no account here. So the files in an
archive are copies of those sources that are files, one by one and in the same order
(`copies_pack`).

Of the tree of files an archive depends on its sources only, so it may as well have been packed from
another tree in which they are the same (`pack_congr`). This is how an archive that was packed in
the middle of a run is seen to hold what was there at its start.
-/
import Mathlib.Data.List.Forall2
import ReleasePipeline.Archive.Packing
import ReleasePipeline.Proofs.Files.Growth

set_option autoImplicit false

namespace ReleasePipeline.Archive

/-! ## Files in an archive -/

/-- The files among the entries of an archive, in the order in which they were put in. -/
def fileEntries (entries : List ArchiveEntry) : List (String × Content) :=
  entries.filterMap fun
    | .file name content => some (name, content)
    | .directory _ => none

@[simp] theorem fileEntries_append (xs ys : List ArchiveEntry) :
    fileEntries (xs ++ ys) = fileEntries xs ++ fileEntries ys := List.filterMap_append

/-- How archives of a kind spell the name of an entry. -/
def spelling : ArchiveKind → String → Except EntryNameError String
  | .zip _, name => .ok name
  | .tar _, name => entryName name

/-- A file in an archive is a copy: it has the name that was asked for, as the archive spells it,
and the content of its source. -/
structure IsCopy (kind : ArchiveKind) (fs : Files) (asked : String × Path)
    (entry : String × Content) : Prop where
  name : spelling kind asked.1 = .ok entry.1
  content : fs.read asked.2 = .ok entry.2

/-- The files that a source comes to in an archive, if it is packed without a failure. -/
inductive PacksTo (kind : ArchiveKind) (fs : Files) (name : String) (source : Path) :
    List (String × Content) → Prop
  | file {place : Place} {content : Content} {spelled : String}
    (hfind : fs.find source = .ok (place, .file content))
    (hname : spelling kind name = .ok spelled) : PacksTo kind fs name source [(spelled, content)]
  | directory {place : Place} (hfind : fs.find source = .ok (place, .directory)) :
    PacksTo kind fs name source []

/-- What the formats have in common. -/
structure Format.Faithful (format : Format) : Prop where
  directory : ∀ d, fileEntries (format.packDirectory d).entries = []
  file : ∀ fs name source, (format.packFile fs name source).failure? = none →
    PacksTo format.kind fs name source (fileEntries (format.packFile fs name source).entries)
  congr : ∀ fs fs' name source, fs.openNode source = fs'.openNode source →
    format.packFile fs name source = format.packFile fs' name source

/-! ## The formats

Both proofs look at the source first and then at its name, in the order in which the format does. -/

/-- A source that is a directory makes a zip archive fail, so in one that did not fail there is
none. -/
theorem faithful_zip (method : ZipMethod) : (zip method).Faithful where
  directory _ := rfl
  file fs name source h := by
    dsimp only [zip] at h ⊢
    cases hopen : fs.openNode source with
    | error e => simp only [hopen, Packed.stop, reduceCtorEq] at h
    | ok node =>
      obtain ⟨place, hfind⟩ := Files.exists_find_of_openNode hopen
      cases node with
      | directory => simp only [hopen, Files.readNode, Packed.stop, reduceCtorEq] at h
      | file content => exact .file hfind rfl
  congr fs fs' name source h := by
    dsimp only [zip]
    rw [h]

/-- In a tar archive a source that is a directory becomes a directory, which is no file. -/
theorem faithful_tar (gzip : Bool) : (tar gzip).Faithful where
  directory d := by
    dsimp only [tar]
    cases entryName d <;> rfl
  file fs name source h := by
    dsimp only [tar] at h ⊢
    cases hopen : fs.openNode source with
    | error e => simp only [hopen, Packed.stop, reduceCtorEq] at h
    | ok node =>
      obtain ⟨place, hfind⟩ := Files.exists_find_of_openNode hopen
      cases hname : entryName name with
      | error e => simp only [hopen, hname, Packed.stop, reduceCtorEq] at h
      | ok spelled =>
        cases node with
        | directory => exact .directory hfind
        | file content => exact .file hfind hname
  congr fs fs' name source h := by
    dsimp only [tar]
    rw [h]

/-! ## Packing to the end

Where no stretch of packing failed, all of them were gone through, and what they put in is there in
their order. -/

namespace Packed

variable {p q : Packed}

/-- Packing goes on to its end if neither part stops. -/
theorem failure?_andThen_eq_none_iff :
    (p.andThen q).failure? = none ↔ p.failure? = none ∧ q.failure? = none := by
  unfold andThen
  cases hp : p.failure? with
  | none => exact ⟨fun hq => ⟨rfl, hq⟩, And.right⟩
  | some f => rw [hp]; exact ⟨nofun, nofun⟩

/-- Then everything was put in. -/
theorem entries_andThen (hp : p.failure? = none) :
    (p.andThen q).entries = p.entries ++ q.entries := by
  rw [andThen, hp]

end Packed

namespace Format.Faithful

variable {format : Format} {fs : Files}

/-- Directories bring no files with them. -/
theorem fileEntries_packDirectories (hformat : format.Faithful) (ds : List String)
    (h : (format.packDirectories ds).failure? = none) :
    fileEntries (format.packDirectories ds).entries = [] := by
  induction ds with
  | nil => rfl
  | cons d rest ih =>
    rw [packDirectories] at h ⊢
    obtain ⟨hfirst, hrest⟩ := Packed.failure?_andThen_eq_none_iff.mp h
    rw [Packed.entries_andThen hfirst, fileEntries_append, hformat.directory, ih hrest]
    rfl

/-- An archive that is packed to its end holds a copy of each source that is a file, in order, and
no other file. -/
theorem copies_pack (hformat : format.Faithful) (seen : List String)
    (sources : List (String × Path)) (h : (format.pack fs seen sources).failure? = none) :
    List.Forall₂ (IsCopy format.kind fs) (sources.filter (fs.isFile ·.2))
      (fileEntries (format.pack fs seen sources).entries) := by
  induction sources generalizing seen with
  | nil => exact .nil
  | cons source rest ih =>
    obtain ⟨name, path⟩ := source
    rw [pack] at h ⊢
    dsimp only at h ⊢
    obtain ⟨habove, h⟩ := Packed.failure?_andThen_eq_none_iff.mp h
    obtain ⟨hfile, hrest⟩ := Packed.failure?_andThen_eq_none_iff.mp h
    rw [Packed.entries_andThen habove, Packed.entries_andThen hfile, fileEntries_append,
      fileEntries_append, hformat.fileEntries_packDirectories _ habove, List.nil_append]
    -- the directories above the source are done with; now the source itself
    have hcopies := ih _ hrest
    have hsource := hformat.file fs name path hfile
    generalize fileEntries (format.packFile fs name path).entries = copied at hsource ⊢
    cases hsource with
    | file hfind hname =>
      simp only [List.filter_cons, Files.isFile_of_find_file hfind, if_true]
      exact .cons ⟨hname, Files.read_eq_ok_iff.mpr ⟨_, hfind⟩⟩ hcopies
    | directory hfind =>
      simp only [List.filter_cons, Files.isFile_of_find_directory hfind, Bool.false_eq_true,
        if_false]
      exact hcopies

/-- Trees in which the sources are the same make the same archive. -/
theorem pack_congr (hformat : format.Faithful) {fs' : Files} (seen : List String)
    (sources : List (String × Path))
    (h : ∀ source ∈ sources, fs.openNode source.2 = fs'.openNode source.2) :
    format.pack fs seen sources = format.pack fs' seen sources := by
  induction sources generalizing seen with
  | nil => rfl
  | cons source rest ih =>
    obtain ⟨name, path⟩ := source
    obtain ⟨hsource, hrest⟩ := List.forall_mem_cons.mp h
    rw [pack, pack]
    dsimp only
    rw [hformat.congr fs fs' name path hsource, ih _ hrest]

end Format.Faithful

end ReleasePipeline.Archive
