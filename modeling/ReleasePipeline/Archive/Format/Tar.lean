/-
The bytes of a tar archive: blocks of 512 bytes, a header for each member and its data after
it, and two empty blocks at the end. A name that the header has no room for is the data of
a member of its own in front.
-/
import ReleasePipeline.Archive.EntryName
import ReleasePipeline.Archive.Format.Zip

set_option autoImplicit false

namespace ReleasePipeline.Archive

/-- The size of a block. -/
def blockSize : Nat := 512

/-- The given number of zero bytes. -/
def zeros (count : Nat) : ByteArray := ⟨(List.replicate count (0 : UInt8)).toArray⟩

/-- Filled up with zeros to a whole number of blocks. -/
def padded (data : ByteArray) : ByteArray :=
  data ++ zeros ((blockSize - data.size % blockSize) % blockSize)

/-- A text in a field of a size, filled up with zeros. -/
def textField (size : Nat) (s : String) : ByteArray :=
  let kept := (textBytes s).extract 0 size
  kept ++ zeros (size - kept.size)

/-- Octal digits, with zeros in front, in a field that ends in a zero byte. -/
def digitsField (size : Nat) (digits : String) : ByteArray :=
  textField size (String.ofList (List.replicate (size - 1 - digits.length) '0') ++ digits)

/-- A number in octal digits. -/
def octalField (size n : Nat) : ByteArray :=
  digitsField size (String.ofList (Nat.toDigits 8 n))

/-- A header; `kind` is the character for the kind of member. -/
def tarHeader (name mode : String) (size : Nat) (kind : Char) : ByteArray :=
  let front := textField headerRoom name ++ digitsField 8 mode ++ octalField 8 0 ++ octalField 8 0
    ++ octalField 12 size ++ octalField 12 0
  let back := textBytes (String.singleton kind) ++ zeros 100 ++ textField 8 "ustar  "
  let blank := padded (front ++ textBytes "        " ++ back)
  let sum := blank.foldl (fun n b => n + b.toNat) 0
  padded (front ++ octalField 7 sum ++ textBytes " " ++ back)

/-- A member with its header. -/
def tarMember (m : Member) : ByteArray :=
  let long := if headerRoom < m.name.utf8ByteSize then
      tarHeader "././@LongLink" ArchiveEntry.fileMode (m.name.utf8ByteSize + 1) 'L'
        ++ padded (textBytes m.name ++ zeros 1)
    else .empty
  let name := String.ofList (firstBytes headerRoom m.name.toList)
  match m.data? with
  | some data => long ++ tarHeader name m.mode data.size '0' ++ padded data
  | none => long ++ tarHeader name m.mode 0 '5'

/-- A tar archive. -/
def tarBytes (members : List Member) : ByteArray :=
  members.foldl (fun bytes m => bytes ++ tarMember m) .empty ++ zeros (2 * blockSize)

end ReleasePipeline.Archive
