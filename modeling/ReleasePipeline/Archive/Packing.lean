/-
Packing: turning files into the entries of an archive.

Entries are put in one after the other, the new directories above a file before the file.
Packing stops at the first file that cannot be packed; what was put in before it stays. The
formats differ in how they spell names and in when they look at a file.
-/
import ReleasePipeline.Archive.Plan

set_option autoImplicit false

namespace ReleasePipeline.Archive

/-- What packing came to. -/
structure Packed where
  /-- The entries that were put in, in order. -/
  entries : List ArchiveEntry := []
  /-- Why it stopped, if it did. -/
  failure? : Option Failure := none

namespace Packed

/-- Packing that stops at once. -/
def stop (activity : Activity) (cause : Cause) : Packed :=
  { failure? := some (.during activity (.because cause)) }

/-- Goes on packing unless it stopped. -/
def andThen (p q : Packed) : Packed :=
  match p.failure? with
  | some _ => p
  | none => { q with entries := p.entries ++ q.entries }

end Packed

/-- How a kind of archive is packed. -/
structure Format where
  kind : ArchiveKind
  /-- Puts in a directory. -/
  packDirectory : String → Packed
  /-- Puts in a file under a name. -/
  packFile : Files → String → Path → Packed

namespace Format

/-- Puts in directories. -/
def packDirectories (format : Format) : List String → Packed
  | [] => {}
  | d :: rest => (format.packDirectory d).andThen (packDirectories format rest)

/-- Packs files under names; `seen` are the directories that are there already. All sources are
read from the same `fs`, in which the archive itself is still empty: what packing has put in so far
is not seen by a source that is the place of the archive (`Archive.write`). -/
def pack (format : Format) (fs : Files) : List String → List (String × Path) → Packed
  | _, [] => {}
  | seen, (name, source) :: rest =>
    let (new, seen) := newDirectories seen name
    (format.packDirectories new).andThen <|
      (format.packFile fs name source).andThen (pack format fs seen rest)

end Format

/-! ## Zip -/

/-- A zip archive takes names as they are. A file is opened before its entry is begun. -/
def zip (method : ZipMethod) : Format where
  kind := .zip method
  packDirectory d := { entries := [.directory d] }
  packFile fs name source :=
    match fs.openNode source with
    | .error e => .stop (.openingSource source) (.io e)
    | .ok node =>
      match Files.readNode node with
      | .error e =>
        -- the entry was begun before it turned out that there is nothing to read
        { Packed.stop (.copyingToArchive source name) (.io e) with
          entries := [.file name (.bytes .empty)] }
      | .ok content => { entries := [.file name content] }

/-! ## Tar -/

/-- A tar archive spells names in its own way and refuses some. A directory that stands where
a file was expected becomes an empty directory. -/
def tar (gzip : Bool) : Format where
  kind := .tar gzip
  packDirectory d :=
    match entryName d with
    | .ok spelled => { entries := [.directory spelled] }
    | .error e => .stop (.creatingEntryDirectory d) (.entryName e)
  packFile fs name source :=
    match fs.openNode source with
    | .error e => .stop (.copyingToArchive source name) (.metadata e source)
    | .ok node =>
      match entryName name with
      | .error e => .stop (.copyingToArchive source name) (.entryName e)
      | .ok spelled =>
        match node with
        | .directory => { entries := [.directory spelled] }
        | .file content => { entries := [.file spelled content] }

end ReleasePipeline.Archive
