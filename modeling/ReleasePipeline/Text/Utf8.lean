/-
Bytes read as text.

Strict reading refuses bytes that are not UTF-8. Lenient reading never fails: each
maximal beginning of a character that then breaks off, and each byte that cannot
begin one, is shown as one replacement character `U+FFFD`.
-/

set_option autoImplicit false

namespace ReleasePipeline.Text

/-- The text that the bytes spell, if they are UTF-8. -/
def decode? (bytes : ByteArray) : Option String := String.fromUTF8? bytes

/-- The bytes of a text. -/
def encode (s : String) : ByteArray := s.toUTF8

/-- Stands for bytes that spell no character. -/
def replacement : Char := '\uFFFD'

/-- The range that the second byte of a character has to lie in, given its first
byte: narrower at the ends, where a longer spelling than needed, a surrogate, or a
code point past the last one would begin. -/
def secondByteRange (first : UInt8) : Nat × Nat :=
  if first = 0xE0 then (0xA0, 0xBF)
  else if first = 0xED then (0x80, 0x9F)
  else if first = 0xF0 then (0x90, 0xBF)
  else if first = 0xF4 then (0x80, 0x8F)
  else (0x80, 0xBF)

/-- Whether `b` may follow the first byte of a character. -/
def followsFirst (first b : UInt8) : Bool :=
  let (lo, hi) := secondByteRange first
  lo ≤ b.toNat && b.toNat ≤ hi

/-- Whether `b` may stand at a later place of a character. -/
def isContinuation (b : UInt8) : Bool := 0x80 ≤ b.toNat && b.toNat ≤ 0xBF

/-- The payload of a byte after the first one. -/
def continuationBits (b : UInt8) : Nat := b.toNat % 64

/-- Lenient reading. -/
def decodeLenient : List UInt8 → List Char
  | [] => []
  | b :: rest =>
    if b < 0x80 then Char.ofNat b.toNat :: decodeLenient rest
    else if 0xC2 ≤ b && b ≤ 0xDF then
      match rest with
      | [] => [replacement]
      | b₁ :: r₁ =>
        if isContinuation b₁ then
          Char.ofNat (b.toNat % 32 * 64 + continuationBits b₁) :: decodeLenient r₁
        else replacement :: decodeLenient (b₁ :: r₁)
    -- a beginning that is cut off is replaced as one, and what cannot belong to it is read anew
    else if 0xE0 ≤ b && b ≤ 0xEF then
      match rest with
      | [] => [replacement]
      | [b₁] =>
        if followsFirst b b₁ then [replacement] else replacement :: decodeLenient [b₁]
      | b₁ :: b₂ :: r₂ =>
        if !followsFirst b b₁ then replacement :: decodeLenient (b₁ :: b₂ :: r₂)
        else if !isContinuation b₂ then replacement :: decodeLenient (b₂ :: r₂)
        else
          Char.ofNat ((b.toNat % 16 * 64 + continuationBits b₁) * 64 + continuationBits b₂)
            :: decodeLenient r₂
    else if 0xF0 ≤ b && b ≤ 0xF4 then
      match rest with
      | [] => [replacement]
      | [b₁] =>
        if followsFirst b b₁ then [replacement] else replacement :: decodeLenient [b₁]
      | [b₁, b₂] =>
        if !followsFirst b b₁ then replacement :: decodeLenient [b₁, b₂]
        else if !isContinuation b₂ then replacement :: decodeLenient [b₂]
        else [replacement]
      | b₁ :: b₂ :: b₃ :: r₃ =>
        if !followsFirst b b₁ then replacement :: decodeLenient (b₁ :: b₂ :: b₃ :: r₃)
        else if !isContinuation b₂ then replacement :: decodeLenient (b₂ :: b₃ :: r₃)
        else if !isContinuation b₃ then replacement :: decodeLenient (b₃ :: r₃)
        else
          Char.ofNat (((b.toNat % 8 * 64 + continuationBits b₁) * 64 + continuationBits b₂) * 64
            + continuationBits b₃) :: decodeLenient r₃
    else replacement :: decodeLenient rest

/-- The text of the bytes, with a replacement character for whatever spells none. -/
def decodeLossy (bytes : ByteArray) : String :=
  match decode? bytes with
  | some s => s
  | none => String.ofList (decodeLenient bytes.toList)

end ReleasePipeline.Text
