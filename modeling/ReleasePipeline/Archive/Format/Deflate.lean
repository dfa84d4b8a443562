/-
Compressed streams whose blocks are stored as they are.

Storing is one of the ways in which a deflate stream may hold its data, so every reader takes these
streams; they are not any smaller than their data, and not what a compressor would make of it.
-/
import ReleasePipeline.Archive.Format.Bytes

set_option autoImplicit false

namespace ReleasePipeline.Archive

/-- The largest size of a stored block. -/
def maxStored : Nat := 65535

/-- A stored block. -/
def storedBlock (isLast : Bool) (data : ByteArray) : ByteArray :=
  fields [(1, if isLast then 1 else 0), (2, data.size), (2, maxStored - data.size)] ++ data

/-- Stored blocks for data from a place on; the number bounds how many full blocks precede the
last one. -/
def storedFrom (data : ByteArray) : Nat → Nat → ByteArray
  | 0, start => storedBlock true (data.extract start data.size)
  | n + 1, start =>
    storedBlock false (data.extract start (start + maxStored)) ++
      storedFrom data n (start + maxStored)

/-- A deflate stream. -/
def deflateStored (data : ByteArray) : ByteArray := storedFrom data ((data.size - 1) / maxStored) 0

/-- A gzip stream: a deflate stream between a header and a checksum. -/
def gzipStored (data : ByteArray) : ByteArray :=
  fields [(2, 0x8B1F), (1, 8), (1, 0), (4, 0), (1, 0), (1, 255)] ++ deflateStored data
    ++ fields [(4, (crc32 data).toNat), (4, data.size)]

end ReleasePipeline.Archive
