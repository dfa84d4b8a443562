/-
What a file holds, as bytes: an archive is written out in its format.

These bytes matter in three places: a digest is taken of them, an asset is uploaded with them, and
an archive is packed into another one. They are those of a well-formed archive with the right
entries, but not those that a compressor would write (`ArchiveKind.assemble`).
-/
import ReleasePipeline.Archive.Format.Tar

set_option autoImplicit false

namespace ReleasePipeline

/-- The bytes of an archive with the given members. Any reader of the format finds the members in
them. But nothing is made smaller: where the kind asks for compression (`Deflated`, `.tar.gz`), the
data is in stored blocks of a deflate stream (`Archive.deflateStored`), and all times are fixed, in
a zip archive the first day that it can name and in a tar archive zero. So the size and the digest
of an archive are not those of an archive that a compressor wrote at some hour of some day. A
`checksums.txt` over archives has the lines and file names that it has to have, with digests of
these bytes. -/
def ArchiveKind.assemble (kind : ArchiveKind) (members : List Archive.Member) : ByteArray :=
  match kind with
  | .zip method => Archive.zipBytes method members
  | .tar false => Archive.tarBytes members
  | .tar true => Archive.gzipStored (Archive.tarBytes members)

mutual
/-- The bytes of a file. -/
def Content.toBytes : Content → ByteArray
  | .bytes b => b
  | .archive kind entries => kind.assemble (ArchiveEntry.members entries)

/-- The members that entries make. -/
def ArchiveEntry.members : List ArchiveEntry → List Archive.Member
  | [] => []
  | .directory name :: rest => { name, data? := none } :: ArchiveEntry.members rest
  | .file name content :: rest =>
    { name, data? := some content.toBytes } :: ArchiveEntry.members rest
end

end ReleasePipeline
