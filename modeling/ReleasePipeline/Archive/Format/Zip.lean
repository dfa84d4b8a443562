/-
The bytes of a zip archive: a record for each member, a directory of all members, and a
record at the end that says where the directory is.
-/
import ReleasePipeline.Archive.Format.Deflate
import ReleasePipeline.Files.Content

set_option autoImplicit false

namespace ReleasePipeline.Archive

/-- A member of an archive: a file with its data, or a directory. -/
structure Member where
  name : String
  data? : Option ByteArray

namespace Member

/-- The data; a directory has none. -/
def data (m : Member) : ByteArray := m.data?.getD .empty

/-- The data as it is kept in a zip archive, and the number of the method. -/
def zipped (method : ZipMethod) (m : Member) : Nat × ByteArray :=
  match m.data?, method with
  | some data, .deflated => (8, deflateStored data)
  | some data, .stored => (0, data)
  | none, _ => (0, .empty)

/-- The fields that the record of a member and its entry in the directory share. Times are
those of the first day that the format knows. -/
def zipFields (method : ZipMethod) (m : Member) : List (Nat × Nat) :=
  let (number, kept) := m.zipped method
  let flags := if m.name.toList.all fun c => c.toNat < 128 then 0 else 2048
  [(2, 20), (2, flags), (2, number), (2, 0), (2, 33), (4, (crc32 m.data).toNat), (4, kept.size),
    (4, m.data.size), (2, m.name.utf8ByteSize), (2, 0)]

/-- The record of a member. -/
def zipRecord (method : ZipMethod) (m : Member) : ByteArray :=
  fields ((4, 0x04034B50) :: m.zipFields method) ++ textBytes m.name ++ (m.zipped method).2

/-- The permissions of a member, in octal digits. -/
def mode (m : Member) : String :=
  if m.data?.isSome then ArchiveEntry.fileMode else ArchiveEntry.directoryMode

/-- The permissions of a member as a number, with the mark of its kind in front. -/
def permissions (m : Member) : Nat :=
  (if m.data?.isSome then 0o100000 else 0o040000) + octalNumber m.mode

/-- The entry of a member in the directory. -/
def zipEntry (method : ZipMethod) (offset : Nat) (m : Member) : ByteArray :=
  fields ([(4, 0x02014B50), (2, 0x0314)] ++ m.zipFields method
    ++ [(2, 0), (2, 0), (2, 0), (4, m.permissions * 65536), (4, offset)]) ++ textBytes m.name

end Member

/-- The records of members and their entries in the directory. -/
def zipParts (method : ZipMethod) (members : List Member) : ByteArray × ByteArray :=
  members.foldl (fun (records, directory) m =>
    (records ++ m.zipRecord method, directory ++ m.zipEntry method records.size)) (.empty, .empty)

/-- A zip archive. -/
def zipBytes (method : ZipMethod) (members : List Member) : ByteArray :=
  let (records, directory) := zipParts method members
  records ++ directory ++ fields [(4, 0x06054B50), (2, 0), (2, 0), (2, members.length),
    (2, members.length), (4, directory.size), (4, records.size), (2, 0)]

end ReleasePipeline.Archive
