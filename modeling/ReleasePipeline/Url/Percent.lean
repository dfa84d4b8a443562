/-
Characters of addresses that are written as percent signs with two digits.

Each part of an address has characters that can stand for themselves there; all others are
written by the bytes that spell them.
-/
import ReleasePipeline.Text.Hexadecimal
import ReleasePipeline.Text.Utf8

set_option autoImplicit false

namespace ReleasePipeline.Url

/-! ## Encoding -/

/-- An upper-case hexadecimal digit. -/
def upperDigit (n : Nat) : Char := (Nat.digitChar n).toUpper

/-- A byte as a percent sign and two digits. -/
def percentByte (b : UInt8) : List Char :=
  ['%', upperDigit (b.toNat / 16), upperDigit (b.toNat % 16)]

/-- Every byte of a character as a percent sign and two digits. -/
def percentChar (c : Char) : List Char :=
  (Text.encode (String.singleton c)).toList.flatMap percentByte

/-- Encodes the characters that cannot stand for themselves. -/
def percentEncode (stands : Char → Bool) (cs : List Char) : List Char :=
  cs.flatMap fun c => if stands c then [c] else percentChar c

/-- A printable ASCII character or a blank. -/
def isShown (c : Char) : Bool := 32 ≤ c.toNat && c.toNat < 127

/-- A character that stands for itself in a path without steps, and in a host that is no name. -/
def standsInOpaque (c : Char) : Bool := isShown c

/-- A character that stands for itself in a fragment. -/
def standsInFragment (c : Char) : Bool := isShown c && c ∉ [' ', '"', '<', '>', '\x60']

/-- A character that stands for itself in a path. -/
def standsInPath (c : Char) : Bool :=
  standsInFragment c && c ∉ ['#', '?', '{', '}']

/-- A character that stands for itself in the name or the password of a user. -/
def standsInUser (c : Char) : Bool :=
  standsInPath c && c ∉ ['/', ':', ';', '=', '@', '[', '\\', ']', '^', '|']

/-- A character that stands for itself in any query. -/
def standsInAnyQuery (c : Char) : Bool := isShown c && c ∉ [' ', '"', '#', '<', '>']

/-- A character that stands for itself in the query of a request. -/
def standsInQuery (c : Char) : Bool := standsInAnyQuery c && c != '\x27'

/-- A text as a value in a query: a blank is a plus sign there. -/
def queryValue (s : String) : String :=
  String.ofList <| s.toList.flatMap fun c =>
    if c = ' ' then ['+']
    else if c.isAlphanum || ['*', '-', '.', '_'].contains c then [c]
    else percentChar c

/-! ## Decoding -/

/-- The bytes that a text spells. A percent sign without two digits stands for itself. -/
def percentDecode : List Char → List UInt8
  | [] => []
  | '%' :: a :: b :: rest =>
    match Text.hexValue? a, Text.hexValue? b with
    | some x, some y => UInt8.ofNat (16 * x + y) :: percentDecode rest
    | _, _ => 0x25 :: percentDecode (a :: b :: rest)
  | c :: rest => (Text.encode (String.singleton c)).toList ++ percentDecode rest

/-- The text whose bytes another one spells, if they are UTF-8. -/
def percentText? (cs : List Char) : Option String := Text.decode? ⟨(percentDecode cs).toArray⟩

end ReleasePipeline.Url
