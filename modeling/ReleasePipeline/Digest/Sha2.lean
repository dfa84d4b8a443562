/-
The SHA-2 family of hash functions: four of them, on words of 32 and of 64 bits.

All four work alike. The message is padded to whole blocks of sixteen words; each block
is mixed into a state of eight words, one round for every constant; the digest is the
beginning of the last state. The constants of the smaller words are the upper halves of
those of the larger words, because both are the first binary places of the same numbers:
cube roots of primes for the rounds, square roots of primes for the first state. What the four
share is written once, over a family, and compiled anew for every one of them.
-/

set_option autoImplicit false

namespace ReleasePipeline.Digest

/-! ## Words -/

/-- What the functions of one word size share. -/
structure Family (w : Type) where
  /-- The number of bytes in a word. -/
  wordBytes : Nat
  ofNat : Nat → w
  toNat : w → Nat
  add : w → w → w
  xor : w → w → w
  and : w → w → w
  not : w → w
  /-- Moves all bits to the right; those that fall out come in at the left. -/
  rotate : w → Nat → w
  /-- Moves all bits to the right; those that fall out are lost. -/
  shift : w → Nat → w
  /-- One constant for every round. -/
  constants : List w
  /-- The rotations that mix the first word of the state, and those that mix the fifth. -/
  upper : Nat × Nat × Nat
  lower : Nat × Nat × Nat
  /-- Two rotations and a shift that mix the second word of the schedule, and those that mix
  the fifteenth. -/
  early : Nat × Nat × Nat
  late : Nat × Nat × Nat

/-- The state of a hash function. -/
structure State (w : Type) where
  a : w
  b : w
  c : w
  d : w
  e : w
  f : w
  g : w
  h : w
  deriving DecidableEq, Inhabited

/-- The words of a state, in order. -/
def State.toList {w : Type} (s : State w) : List w := [s.a, s.b, s.c, s.d, s.e, s.f, s.g, s.h]

namespace Family

variable {w : Type} (F : Family w)

/-- Mixes a word by three rotations. -/
@[specialize F] def mix (r : Nat × Nat × Nat) (x : w) : w :=
  F.xor (F.xor (F.rotate x r.1) (F.rotate x r.2.1)) (F.rotate x r.2.2)

/-- Mixes a word by two rotations and a shift. -/
@[specialize F] def spread (r : Nat × Nat × Nat) (x : w) : w :=
  F.xor (F.xor (F.rotate x r.1) (F.rotate x r.2.1)) (F.shift x r.2.2)

/-- Takes each bit from `y` or from `z`, as the bit of `x` says. -/
@[specialize F] def choose (x y z : w) : w := F.xor (F.and x y) (F.and (F.not x) z)

/-- The bit that at least two of the three have. -/
@[specialize F] def majority (x y z : w) : w := F.xor (F.xor (F.and x y) (F.and x z)) (F.and y z)

/-- One round, with a constant and a word of the schedule. -/
@[specialize F] def round (k x : w) (s : State w) : State w :=
  let t₁ := F.add (F.add (F.add (F.add s.h (F.mix F.lower s.e)) (F.choose s.e s.f s.g)) k) x
  let t₂ := F.add (F.mix F.upper s.a) (F.majority s.a s.b s.c)
  { a := F.add t₁ t₂, b := s.a, c := s.b, d := s.c,
    e := F.add s.d t₁, f := s.e, g := s.f, h := s.g }

/-- The word of the schedule that follows sixteen others. -/
@[specialize F] def nextWord (window : List w) : w :=
  let word (i : Nat) : w := window.getD i (F.ofNat 0)
  F.add (F.add (F.add (F.spread F.late (word 14)) (word 9)) (F.spread F.early (word 1))) (word 0)

/-- One round for each constant; the window holds the next sixteen words of the schedule. -/
@[specialize F] def rounds : List w → List w → State w → State w
  | k :: ks, x :: window, s =>
    rounds ks (window ++ [F.nextWord (x :: window)]) (F.round k x s)
  | _, _, s => s

/-- Mixes a block into a state. -/
@[specialize F] def absorb (s : State w) (block : List w) : State w :=
  let t := F.rounds F.constants block s
  { a := F.add s.a t.a, b := F.add s.b t.b, c := F.add s.c t.c, d := F.add s.d t.d,
    e := F.add s.e t.e, f := F.add s.f t.f, g := F.add s.g t.g, h := F.add s.h t.h }

/-! ## Messages -/

/-- The number that bytes spell, the most significant first. -/
def bigEndian (bytes : List UInt8) : Nat := bytes.foldl (fun n b => n * 256 + b.toNat) 0

/-- The bytes of a number, the most significant first. -/
def bigEndianBytes : Nat → Nat → List UInt8
  | 0, _ => []
  | count + 1, n => bigEndianBytes count (n / 256) ++ [UInt8.ofNat n]

/-- The number of bytes in a block. -/
def blockBytes : Nat := 16 * F.wordBytes

/-- What is put after a message of a length: a one bit, zeros, and the length in bits. -/
@[specialize F] def padding (length : Nat) : List UInt8 :=
  let lengthBytes := 2 * F.wordBytes
  let used := (length + 1 + lengthBytes) % F.blockBytes
  0x80 :: (List.replicate ((F.blockBytes - used) % F.blockBytes) 0
    ++ bigEndianBytes lengthBytes (8 * length))

/-- Pieces of the given size; what is left over is dropped. -/
def pieces {α : Type} (size : Nat) (items : List α) : List (List α) :=
  if size = 0 ∨ (items.take size).length < size then []
  else items.take size :: pieces size (items.drop size)
termination_by items.length
decreasing_by
  rename_i h
  simp only [List.length_take] at h
  simp only [List.length_drop]
  omega

/-- The words of a block. -/
@[specialize F] def words (block : List UInt8) : List w :=
  (pieces F.wordBytes block).map fun bytes => F.ofNat (bigEndian bytes)

/-- The last state for a message. -/
@[specialize F] def run (first : State w) (message : List UInt8) : State w :=
  ((pieces F.blockBytes (message ++ F.padding message.length)).map F.words).foldl F.absorb first

/-- The bytes of a state. -/
@[specialize F] def stateBytes (s : State w) : List UInt8 :=
  s.toList.flatMap fun x => bigEndianBytes F.wordBytes (F.toNat x)

end Family

/-! ## Constants -/

/-- The first 64 binary places of the cube roots of the first eighty primes. -/
def cubeRoots : List UInt64 :=
  [ 0x428a2f98d728ae22, 0x7137449123ef65cd, 0xb5c0fbcfec4d3b2f, 0xe9b5dba58189dbbc,
    0x3956c25bf348b538, 0x59f111f1b605d019, 0x923f82a4af194f9b, 0xab1c5ed5da6d8118,
    0xd807aa98a3030242, 0x12835b0145706fbe, 0x243185be4ee4b28c, 0x550c7dc3d5ffb4e2,
    0x72be5d74f27b896f, 0x80deb1fe3b1696b1, 0x9bdc06a725c71235, 0xc19bf174cf692694,
    0xe49b69c19ef14ad2, 0xefbe4786384f25e3, 0x0fc19dc68b8cd5b5, 0x240ca1cc77ac9c65,
    0x2de92c6f592b0275, 0x4a7484aa6ea6e483, 0x5cb0a9dcbd41fbd4, 0x76f988da831153b5,
    0x983e5152ee66dfab, 0xa831c66d2db43210, 0xb00327c898fb213f, 0xbf597fc7beef0ee4,
    0xc6e00bf33da88fc2, 0xd5a79147930aa725, 0x06ca6351e003826f, 0x142929670a0e6e70,
    0x27b70a8546d22ffc, 0x2e1b21385c26c926, 0x4d2c6dfc5ac42aed, 0x53380d139d95b3df,
    0x650a73548baf63de, 0x766a0abb3c77b2a8, 0x81c2c92e47edaee6, 0x92722c851482353b,
    0xa2bfe8a14cf10364, 0xa81a664bbc423001, 0xc24b8b70d0f89791, 0xc76c51a30654be30,
    0xd192e819d6ef5218, 0xd69906245565a910, 0xf40e35855771202a, 0x106aa07032bbd1b8,
    0x19a4c116b8d2d0c8, 0x1e376c085141ab53, 0x2748774cdf8eeb99, 0x34b0bcb5e19b48a8,
    0x391c0cb3c5c95a63, 0x4ed8aa4ae3418acb, 0x5b9cca4f7763e373, 0x682e6ff3d6b2b8a3,
    0x748f82ee5defb2fc, 0x78a5636f43172f60, 0x84c87814a1f0ab72, 0x8cc702081a6439ec,
    0x90befffa23631e28, 0xa4506cebde82bde9, 0xbef9a3f7b2c67915, 0xc67178f2e372532b,
    0xca273eceea26619c, 0xd186b8c721c0c207, 0xeada7dd6cde0eb1e, 0xf57d4f7fee6ed178,
    0x06f067aa72176fba, 0x0a637dc5a2c898a6, 0x113f9804bef90dae, 0x1b710b35131c471b,
    0x28db77f523047d84, 0x32caab7b40c72493, 0x3c9ebe0a15c9bebc, 0x431d67c49c100d4c,
    0x4cc5d4becb3e42b6, 0x597f299cfc657e2a, 0x5fcb6fab3ad6faec, 0x6c44198c4a475817]

/-- The state whose words are the first 64 binary places of the square roots of the first
eight primes. -/
def squareRoots : State UInt64 :=
  ⟨0x6a09e667f3bcc908, 0xbb67ae8584caa73b, 0x3c6ef372fe94f82b, 0xa54ff53a5f1d36f1,
    0x510e527fade682d1, 0x9b05688c2b3e6c1f, 0x1f83d9abfb41bd6b, 0x5be0cd19137e2179⟩

/-- The same for the next eight primes. -/
def laterSquareRoots : State UInt64 :=
  ⟨0xcbbb9d5dc1059ed8, 0x629a292a367cd507, 0x9159015a3070dd17, 0x152fecd8f70e5939,
    0x67332667ffc00b31, 0x8eb44a8768581511, 0xdb0c2e0d64f98fa7, 0x47b5481dbefa4fa4⟩

/-- The words of a state, each changed in the same way. -/
def State.map {v w : Type} (f : v → w) (s : State v) : State w :=
  ⟨f s.a, f s.b, f s.c, f s.d, f s.e, f s.f, f s.g, f s.h⟩

/-! ## The two families -/

/-- The first 32 binary places of the cube roots of the first sixty-four primes. -/
def shortCubeRoots : List UInt32 := (cubeRoots.take 64).map fun (k : UInt64) => (k >>> 32).toUInt32

/-- Words of 32 bits. -/
@[inline] def family32 : Family UInt32 where
  wordBytes := 4
  ofNat := UInt32.ofNat
  toNat := UInt32.toNat
  add := (· + ·)
  xor := (· ^^^ ·)
  and := (· &&& ·)
  not := (~~~ ·)
  rotate x n := (x >>> UInt32.ofNat n) ||| (x <<< UInt32.ofNat (32 - n))
  shift x n := x >>> UInt32.ofNat n
  constants := shortCubeRoots
  upper := (2, 13, 22)
  lower := (6, 11, 25)
  early := (7, 18, 3)
  late := (17, 19, 10)

/-- Words of 64 bits. -/
@[inline] def family64 : Family UInt64 where
  wordBytes := 8
  ofNat := UInt64.ofNat
  toNat := UInt64.toNat
  add := (· + ·)
  xor := (· ^^^ ·)
  and := (· &&& ·)
  not := (~~~ ·)
  rotate x n := (x >>> UInt64.ofNat n) ||| (x <<< UInt64.ofNat (64 - n))
  shift x n := x >>> UInt64.ofNat n
  constants := cubeRoots
  upper := (28, 34, 39)
  lower := (14, 18, 41)
  early := (1, 8, 7)
  late := (19, 61, 6)

end ReleasePipeline.Digest
