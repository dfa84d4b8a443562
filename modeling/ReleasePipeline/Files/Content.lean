/-
What a file holds.

Plain files hold bytes. Archives are kept as the list of their entries, in the order in
which they were put in; so what was packed stays visible, whatever the packing.
-/
import ReleasePipeline.Text.Utf8

set_option autoImplicit false

namespace ReleasePipeline

/-- How the files of a zip archive are packed. -/
inductive ZipMethod where
  | deflated
  | stored
  deriving DecidableEq, Inhabited, Repr

/-- The name of a packing method. -/
def ZipMethod.name : ZipMethod → String
  | .deflated => "Deflated"
  | .stored => "Stored"

/-- The kind of an archive. -/
inductive ArchiveKind where
  | zip (method : ZipMethod)
  | tar (gzip : Bool)
  deriving DecidableEq, Inhabited, Repr

mutual
/-- What a file holds. -/
inductive Content where
  | bytes (b : ByteArray)
  | archive (kind : ArchiveKind) (entries : List ArchiveEntry)

/-- An entry of an archive. -/
inductive ArchiveEntry where
  | directory (name : String)
  | file (name : String) (content : Content)
end

instance : Inhabited Content := ⟨.bytes .empty⟩
instance : Inhabited ArchiveEntry := ⟨.directory ""⟩

namespace Content

/-- The content that spells a text. -/
def ofText (s : String) : Content := .bytes (Text.encode s)

end Content

/-- The name of an entry. -/
def ArchiveEntry.name : ArchiveEntry → String
  | .directory n => n
  | .file n _ => n

/-- A zip archive has no other mark of a directory than a name that ends in a slash, either one;
so a file that was put in under such a name is found there as a directory. -/
def ArchiveEntry.isFoundAsDirectory (kind : ArchiveKind) : ArchiveEntry → Bool
  | .directory _ => true
  | .file n _ =>
    match kind, n.toList.getLast? with
    | .zip _, some c => c == '/' || c == '\\'
    | _, _ => false

/-- The entry that is found in an archive where this one was put in. -/
def ArchiveEntry.found (kind : ArchiveKind) (e : ArchiveEntry) : ArchiveEntry :=
  if e.isFoundAsDirectory kind then .directory e.name else e

/-- The permissions of a directory in an archive, in octal digits. -/
def ArchiveEntry.directoryMode : String := "755"

/-- The permissions of a file in an archive, whatever those of its source are. -/
def ArchiveEntry.fileMode : String := "644"

end ReleasePipeline
