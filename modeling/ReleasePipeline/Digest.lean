/-
Digests of files, as hexadecimal text.

There are four hash functions, of two families: the shorter two work on words of 32 bits, the longer
two on words of 64. Within a family they differ in the state that they begin with and in how much of
the last state they give out.
-/
import ReleasePipeline.Digest.Sha2

set_option autoImplicit false

namespace ReleasePipeline

/-- A hash function. -/
inductive HashAlgorithm where
  | sha224
  | sha256
  | sha384
  | sha512
  deriving DecidableEq, Inhabited, Repr

namespace HashAlgorithm

/-- The name of the function. -/
def name : HashAlgorithm → String
  | .sha224 => "sha224"
  | .sha256 => "sha256"
  | .sha384 => "sha384"
  | .sha512 => "sha512"

open Digest in
/-- The digest of a message. The state that the second function begins with is the upper half
of that of the fourth; the first one begins with the lower half of that of the third. -/
def digest (algorithm : HashAlgorithm) (message : List UInt8) : List UInt8 :=
  match algorithm with
  | .sha224 =>
    (family32.stateBytes (family32.run (laterSquareRoots.map UInt64.toUInt32) message)).take 28
  | .sha256 =>
    family32.stateBytes
      (family32.run (squareRoots.map fun (x : UInt64) => (x >>> 32).toUInt32) message)
  | .sha384 => (family64.stateBytes (family64.run laterSquareRoots message)).take 48
  | .sha512 => family64.stateBytes (family64.run squareRoots message)

/-- Two lower-case digits for each byte. -/
def hexadecimal (bytes : List UInt8) : String :=
  String.ofList <| bytes.flatMap fun b =>
    [Nat.digitChar (b.toNat / 16), Nat.digitChar (b.toNat % 16)]

/-- The digest of a message as text. -/
def hexDigest (algorithm : HashAlgorithm) (message : ByteArray) : String :=
  hexadecimal (algorithm.digest message.toList)

end HashAlgorithm

end ReleasePipeline
