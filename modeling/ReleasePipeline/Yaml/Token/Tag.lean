/-
Reading the words that begin with a mark: anchors and references, tags, and
directives.
-/
import ReleasePipeline.Text.Utf8
import ReleasePipeline.Yaml.Token
import ReleasePipeline.Yaml.Token.Scalar

set_option autoImplicit false

namespace ReleasePipeline.Yaml

/-! ## Anchors -/

/-- A character that may follow the name of an anchor. -/
def endsAnchor : List Char → Bool
  | [] => true
  | c :: _ => isGap c || isBreak c || "?:,]\x7d%@\x60".toList.contains c

/-- Reads the name of an anchor behind its mark. -/
def readAnchor? (place : Cursor) : Option (String × Cursor) :=
  let name := place.rest.takeWhile isWordChar
  let place := place.skip name.length
  if name.isEmpty || !endsAnchor place.rest then none else some (String.ofList name, place)

/-! ## Tags -/

/-- A character of a tag. The last three marks belong to verbatim tags and to the
texts of directives alone. -/
def isTagChar (verbatim : Bool) (c : Char) : Bool :=
  isWordChar c || ";/?:@&=+$.%!~*'()".toList.contains c
    || (verbatim && (c == ',' || c == '[' || c == ']'))

/-- The bytes that the escapes at the front spell, which begin with a percent sign and
two hexadecimal digits each, and the number of characters they take. -/
def escapedBytes : Nat → List Char → List UInt8
  | 0, _ => []
  | n + 1, '%' :: a :: b :: rest =>
    match Text.hexValue? a, Text.hexValue? b with
    | some x, some y => UInt8.ofNat (16 * x + y) :: escapedBytes n rest
    | _, _ => []
  | _, _ => []

/-- How many bytes a character takes whose first byte is given. -/
def widthOf? (first : UInt8) : Option Nat :=
  if first < 0x80 then some 1
  else if 0xC0 ≤ first && first < 0xE0 then some 2
  else if 0xE0 ≤ first && first < 0xF0 then some 3
  else if 0xF0 ≤ first && first < 0xF8 then some 4
  else none

/-- Reads the octets of one escaped character of a tag, each of which takes three characters.
The first octet tells how many there are, and those after it are to look like continuations;
whether they spell a character is not asked. -/
def escapedOctets? (cs : List Char) : Option TagOctets := do
  let first ← (escapedBytes 1 cs).head?
  let width ← widthOf? first
  let octets := escapedBytes width cs
  if octets.length = width ∧ octets.tail.all Text.isContinuation then some octets else none

/-- Reads the text of a tag: the octets meant and how many characters spell them. The number
counts how many characters of the current escape are still to be passed over. -/
def tagText? (verbatim : Bool) : Nat → List Char → Option (TagOctets × Nat)
  | _, [] => some ([], 0)
  | n + 1, _ :: rest => (tagText? verbatim n rest).map fun (text, count) => (text, count + 1)
  | 0, c :: rest =>
    if !isTagChar verbatim c then some ([], 0)
    else if c == '%' then
      match escapedOctets? (c :: rest) with
      | none => none
      | some octets =>
        (tagText? verbatim (3 * octets.length - 1) rest).map fun (text, n) =>
          (octets ++ text, n + 1)
    else (tagText? verbatim 0 rest).map fun (text, n) => (UInt8.ofNat c.toNat :: text, n + 1)

/-- A zero octet ends a tag wherever it stands. -/
def untilZero (octets : TagOctets) : TagOctets := octets.takeWhile (· != 0)

/-- The handle at the front of a tag: an exclamation mark, a word, and possibly a second
exclamation mark. -/
def tagHandle : List Char → List Char
  | '!' :: rest =>
    let word := rest.takeWhile isWordChar
    let closing := ((rest.drop word.length).head? == some '!')
    '!' :: word ++ (if closing then ['!'] else [])
  | _ => []

/-- A handle that a directive can declare: the lone mark, or a word between two marks. -/
def isFullHandle (handle : List Char) : Bool :=
  handle.length > 1 && handle.getLast? == some '!'

/-- Reads a tag. A tag that is written in full between angle brackets has no handle; nor
has the lone exclamation mark. -/
def readTag? (flow : Bool) (place : Cursor) : Option (String × TagOctets × Cursor) := do
  let (handle, suffix, place) ←
    match place.rest with
    | '!' :: '<' :: rest => do
      let (text, count) ← tagText? true 0 rest
      let place := place.skip (count + 2)
      if count = 0 ∨ place.rest.head? ≠ some '>' then none
      else some ([], untilZero text, place.skip 1)
    | cs => do
      let handle := tagHandle cs
      let (text, count) ← tagText? false 0 (cs.drop handle.length)
      let place := place.skip (handle.length + count)
      if isFullHandle handle then
        if count = 0 then none else some (handle, untilZero text, place)
      else
        let suffix := untilZero (tagOctets (String.ofList (handle.drop 1)) ++ text)
        some (if suffix.isEmpty then ([], tagOctets "!", place) else (['!'], suffix, place))
  if endsWord place.rest || (flow && place.rest.head? == some ',') then
    some (String.ofList handle, suffix, place)
  else none

/-! ## Directives -/

/-- Reads a number of one to nine digits. -/
def readVersionNumber? (place : Cursor) : Option (Nat × Cursor) :=
  let digits := place.rest.takeWhile Char.isDigit
  if digits.isEmpty || digits.length > 9 then none
  else some (digits.foldl (fun n c => 10 * n + (c.toNat - 48)) 0, place.skip digits.length)

/-- Reads the two numbers of a version. -/
def readVersion? (place : Cursor) : Option (Token × Cursor) := do
  let (major, place) ← readVersionNumber? (place.skipWhile isGap)
  if place.rest.head? ≠ some '.' then none
  else
    let (minor, place) ← readVersionNumber? (place.skip 1)
    some (.versionDirective major minor, place)

/-- Reads a tag handle and the text that it stands for. -/
def readTagDirective? (place : Cursor) : Option (Token × Cursor) := do
  let place := place.skipWhile isGap
  let handle := tagHandle place.rest
  if handle.isEmpty ∨ !(handle = ['!'] ∨ isFullHandle handle) then none
  else
    let place := place.skip handle.length
    if !startsGap place.rest then none
    else
      let place := place.skipWhile isGap
      let (text, count) ← tagText? true 0 place.rest
      let place := place.skip count
      if count = 0 || !endsWord place.rest then none
      else some (.tagDirective (String.ofList handle) (untilZero text), place)

/-- Reads a directive, from its percent sign to the end of its line. -/
def readDirective? (place : Cursor) : Option (Token × Cursor) := do
  let name := (place.rest.drop 1).takeWhile isWordChar
  let place := place.skip (name.length + 1)
  if name.isEmpty || !endsWord place.rest then none
  else
    let (token, place) ←
      match String.ofList name with
      | "YAML" => readVersion? place
      | "TAG" => readTagDirective? place
      | _ => none
    let place ← place.finishLine?
    some (token, place)

end ReleasePipeline.Yaml
