/-
Reading JSON.

The reader accepts exactly one value between blanks. It is a recursive descent with
a budget that bounds both nesting and length: every call that reads anything passes
on one less, and the budget that `readWith?` starts with, the length of the text, is
more than any text can use up.

There are two ways to read the strings of a value. `read?` takes a text and resolves their
escapes. `skim?` takes bytes and passes over the strings, as for a value most of which is not
wanted: what is inside a string need not be UTF-8, and an escape may be half of a pair. A string
that is wanted is read from its spelling afterwards (`text?`), and only then do these faults count.
-/
import ReleasePipeline.Json
import ReleasePipeline.Text.Hexadecimal
import ReleasePipeline.Text.Utf8

set_option autoImplicit false

namespace ReleasePipeline.Json

/-! ## Blanks, numbers and strings -/

/-- The blanks of JSON: space, tab and the two line ends. -/
def isBlank (c : Char) : Bool := c == ' ' || c == '\t' || c == '\n' || c == '\r'

/-- Without the blanks at the front. -/
def skipBlanks (cs : List Char) : List Char := cs.dropWhile isBlank

/-- Reads one or more digits. -/
def readDigits? (cs : List Char) : Option (List Char × List Char) :=
  let digits := cs.takeWhile Char.isDigit
  if digits.isEmpty then none else some (digits, cs.dropWhile Char.isDigit)

/-- Reads the digits before the point: a lone zero, or digits that begin with
another one. -/
def readWhole? : List Char → Option (List Char × List Char)
  | '0' :: cs => some (['0'], cs)
  | cs => readDigits? cs

/-- Reads a point and digits, if there is a point. -/
def readFraction? : List Char → Option (List Char × List Char)
  | '.' :: cs => (readDigits? cs).map fun (digits, rest) => ('.' :: digits, rest)
  | cs => some ([], cs)

/-- Reads an exponent, if there is one. -/
def readExponent? : List Char → Option (List Char × List Char)
  | c :: cs =>
    if c == 'e' || c == 'E' then
      match cs with
      | '+' :: cs => (readDigits? cs).map fun (digits, rest) => (c :: '+' :: digits, rest)
      | '-' :: cs => (readDigits? cs).map fun (digits, rest) => (c :: '-' :: digits, rest)
      | cs => (readDigits? cs).map fun (digits, rest) => (c :: digits, rest)
    else some ([], c :: cs)
  | [] => some ([], [])

/-- Reads a number without its sign. -/
def readUnsigned? (cs : List Char) : Option (List Char × List Char) := do
  let (whole, cs) ← readWhole? cs
  let (fraction, cs) ← readFraction? cs
  let (exponent, cs) ← readExponent? cs
  some (whole ++ fraction ++ exponent, cs)

/-- Reads a number. -/
def readNumber? : List Char → Option (List Char × List Char)
  | '-' :: cs => (readUnsigned? cs).map fun (spelling, rest) => ('-' :: spelling, rest)
  | cs => readUnsigned? cs

/-- The value of four hexadecimal digits. -/
def hexValue4? (a b c d : Char) : Option Nat :=
  Text.hexNumber? [a, b, c, d]

/-- The character that a one-letter escape stands for. -/
def shortEscape? : Char → Option Char
  | '"' => some '"'
  | '\\' => some '\\'
  | '/' => some '/'
  | 'b' => some '\x08'
  | 'f' => some '\x0c'
  | 'n' => some '\n'
  | 'r' => some '\r'
  | 't' => some '\t'
  | _ => none

/-- Reads the rest of a string, up to and with the closing quote. Code points beyond
the sixteen-bit range are escaped as a pair of halves, and a half alone is
refused. -/
def readString? : List Char → Option (List Char × List Char)
  | [] => none
  | '"' :: rest => some ([], rest)
  | '\\' :: 'u' :: a :: b :: c :: d :: rest =>
    match hexValue4? a b c d with
    | none => none
    | some n =>
      -- the second half has to follow at once, as an escape of its own
      if 0xD800 ≤ n ∧ n < 0xDC00 then
        match rest with
        | '\\' :: 'u' :: a :: b :: c :: d :: rest =>
          match hexValue4? a b c d with
          | none => none
          | some m =>
            if 0xDC00 ≤ m ∧ m < 0xE000 then
              (readString? rest).map fun (cs, after) =>
                (Char.ofNat (0x10000 + (n - 0xD800) * 0x400 + (m - 0xDC00)) :: cs, after)
            else none
        | _ => none
      else if 0xDC00 ≤ n ∧ n < 0xE000 then none
      else (readString? rest).map fun (cs, after) => (Char.ofNat n :: cs, after)
  | '\\' :: e :: rest =>
    match shortEscape? e with
    | none => none
    | some c => (readString? rest).map fun (cs, after) => (c :: cs, after)
  | c :: rest =>
    if c.toNat < 32 then none
    else (readString? rest).map fun (cs, after) => (c :: cs, after)

/-- Passes over the rest of a string, up to and with the closing quote, and keeps it as it is
spelled. An escape has to be one, but it does not matter for which character it stands. -/
def skipString? : List Char → Option (List Char × List Char)
  | [] => none
  | '"' :: rest => some ([], rest)
  | '\\' :: 'u' :: a :: b :: c :: d :: rest =>
    match hexValue4? a b c d with
    | none => none
    | some _ =>
      (skipString? rest).map fun (cs, after) => ('\\' :: 'u' :: a :: b :: c :: d :: cs, after)
  | '\\' :: e :: rest =>
    match shortEscape? e with
    | none => none
    | some _ => (skipString? rest).map fun (cs, after) => ('\\' :: e :: cs, after)
  | c :: rest =>
    if c.toNat < 32 then none
    else (skipString? rest).map fun (cs, after) => (c :: cs, after)

/-! ## Values -/

section Values

variable (string? : List Char → Option (List Char × List Char))

mutual
/-- Reads a value after blanks; `string?` reads the strings in it. -/
def readValue? : Nat → List Char → Option (Json × List Char)
  | 0, _ => none
  | budget + 1, cs =>
    match skipBlanks cs with
    | 'n' :: 'u' :: 'l' :: 'l' :: rest => some (.null, rest)
    | 't' :: 'r' :: 'u' :: 'e' :: rest => some (.bool true, rest)
    | 'f' :: 'a' :: 'l' :: 's' :: 'e' :: rest => some (.bool false, rest)
    | '"' :: rest => (string? rest).map fun (s, after) => (.string (String.ofList s), after)
    | '[' :: rest =>
      match skipBlanks rest with
      | ']' :: after => some (.array [], after)
      | _ => (readItems? budget rest).map fun (items, after) => (.array items, after)
    | '{' :: rest =>
      match skipBlanks rest with
      | '}' :: after => some (.object [], after)
      | _ => (readMembers? budget rest).map fun (members, after) => (.object members, after)
    | cs => (readNumber? cs).map fun (spelling, after) => (.number (String.ofList spelling), after)

/-- Reads one or more items and the bracket that closes them. -/
def readItems? : Nat → List Char → Option (List Json × List Char)
  | 0, _ => none
  | budget + 1, cs =>
    match readValue? budget cs with
    | none => none
    | some (item, rest) =>
      match skipBlanks rest with
      | ',' :: rest => (readItems? budget rest).map fun (items, after) => (item :: items, after)
      | ']' :: after => some ([item], after)
      | _ => none

/-- Reads one or more members and the brace that closes them. -/
def readMembers? : Nat → List Char → Option (List (String × Json) × List Char)
  | 0, _ => none
  | budget + 1, cs =>
    match skipBlanks cs with
    | '"' :: rest =>
      match string? rest with
      | none => none
      | some (name, rest) =>
        match skipBlanks rest with
        | ':' :: rest =>
          match readValue? budget rest with
          | none => none
          | some (value, rest) =>
            match skipBlanks rest with
            | ',' :: rest =>
              (readMembers? budget rest).map fun (members, after) =>
                ((String.ofList name, value) :: members, after)
            | '}' :: after => some ([(String.ofList name, value)], after)
            | _ => none
        | _ => none
    | _ => none
end

/-- The value that the characters spell. -/
def readWith? (cs : List Char) : Option Json :=
  match readValue? string? (cs.length + 1) cs with
  | some (value, rest) => if (skipBlanks rest).isEmpty then some value else none
  | none => none

end Values

/-- The value that a text spells. -/
def read? (text : String) : Option Json := readWith? readString? text.toList

/-! ## Values of bytes -/

/-- The value that bytes spell, with its strings as they are spelled: each character of a string
stands for one byte. -/
def skim? (bytes : ByteArray) : Option Json :=
  readWith? skipString? (bytes.data.toList.map fun b => Char.ofNat b.toNat)

/-- The text of a string that was passed over, if its bytes are UTF-8 and its escapes stand for
characters. -/
def text? (spelling : String) : Option String :=
  (Text.decode? ⟨(spelling.toList.map fun c => UInt8.ofNat c.toNat).toArray⟩).bind fun text =>
    match readString? (text.toList ++ ['"']) with
    | some (cs, []) => some (String.ofList cs)
    | _ => none

end ReleasePipeline.Json
