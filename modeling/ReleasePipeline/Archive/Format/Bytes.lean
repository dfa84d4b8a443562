/-
Numbers as bytes, the least significant first, and the checksum of archive formats.
-/

set_option autoImplicit false

namespace ReleasePipeline.Archive

/-- The given number of bytes of a number, the least significant first. -/
def littleEndian : Nat → Nat → List UInt8
  | 0, _ => []
  | count + 1, n => UInt8.ofNat n :: littleEndian count (n / 256)

/-- Several numbers, each with its number of bytes. -/
def fields (items : List (Nat × Nat)) : ByteArray :=
  ⟨(items.flatMap fun (count, n) => littleEndian count n).toArray⟩

/-- The text as bytes. -/
def textBytes (s : String) : ByteArray := s.toUTF8

/-- The number that octal digits spell. -/
def octalNumber (digits : String) : Nat :=
  digits.toList.foldl (fun n c => 8 * n + (c.toNat - '0'.toNat)) 0

/-! ## Checksum -/

/-- Divides by the generator, bit by bit. -/
def crcStep : Nat → UInt32 → UInt32
  | 0, c => c
  | n + 1, c => crcStep n (if c &&& 1 = 1 then (c >>> 1) ^^^ 0xEDB88320 else c >>> 1)

/-- The remainders of single bytes. -/
def crcTable : Array UInt32 := ((List.range 256).map fun n => crcStep 8 (UInt32.ofNat n)).toArray

/-- The cyclic redundancy check of 32 bits. -/
def crc32 (bytes : ByteArray) : UInt32 :=
  let last := bytes.foldl (fun (c : UInt32) b =>
    crcTable.getD ((c ^^^ b.toUInt32) &&& 0xFF).toNat 0 ^^^ (c >>> 8)) 0xFFFFFFFF
  last ^^^ 0xFFFFFFFF

end ReleasePipeline.Archive
