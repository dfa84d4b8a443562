/-
Hosts that are named by their number in the network.

A number of four bytes is written with dots: as four numbers, or as fewer of which the last one
fills the bytes that are left. Each of them is decimal, or octal behind a zero, or hexadecimal
behind a zero and an `x`. A number of eight pairs of bytes is written with colons, where two in
a row stand for all the zeros that are missing, and the last two pairs may be written with dots.
-/
import ReleasePipeline.Text.Hexadecimal

set_option autoImplicit false

namespace ReleasePipeline.Url

/-! ## Four bytes -/

/-- The number that digits below a base spell. -/
def readDigits? (base : Nat) (digits : List Char) : Option Nat :=
  digits.foldlM (fun n c => do
    let d ← Text.hexValue? c
    if d < base then some (n * base + d) else none) 0

/-- Reads one of the numbers between the dots. -/
def readNumber? : List Char → Option Nat
  | [] => none
  | '0' :: 'x' :: digits | '0' :: 'X' :: digits => readDigits? 16 digits
  | '0' :: d :: digits => readDigits? 8 (d :: digits)
  | digits => readDigits? 10 digits

/-- What stands between the dots. A dot at the end does not count. -/
def dotted (cs : List Char) : List (List Char) :=
  let pieces := Text.splitOn '.' cs
  if pieces.length > 1 && pieces.getLast? == some [] then pieces.dropLast else pieces

/-- A host whose name ends in a number is not named by a word. -/
def endsInNumber (cs : List Char) : Bool :=
  match (dotted cs).getLast? with
  | none | some [] => false
  | some last => last.all Char.isDigit || (readNumber? last).isSome

/-- The number that some numbers make in so many bytes: each but the last is a byte, and the last
one fills what is left. -/
def joinNumbers? : Nat → List Nat → Option Nat
  | _, [] | 0, _ => none
  | room, [last] => if last < Nat.pow 256 room then some last else none
  | room + 1, byte :: rest =>
    if byte < 256 then (joinNumbers? room rest).map (byte * Nat.pow 256 room + ·) else none

/-- Reads a number of four bytes. -/
def readIpv4? (cs : List Char) : Option Nat := do
  joinNumbers? 4 (← (dotted cs).mapM readNumber?)

/-- A number of four bytes in decimals. -/
def ipv4Text (n : Nat) : String :=
  ".".intercalate
    ([n / 16777216 % 256, n / 65536 % 256, n / 256 % 256, n % 256].map toString)

/-! ## Eight pairs of bytes -/

/-- Reads a pair of bytes. -/
def readPair? (cs : List Char) : Option Nat :=
  if 1 ≤ cs.length && cs.length ≤ 4 then readDigits? 16 cs else none

/-- Reads a byte in decimals, without needless zeros. -/
def readByte? (cs : List Char) : Option Nat :=
  if cs.isEmpty || (cs.head? == some '0' && cs.length > 1) then none
  else (readDigits? 10 cs).filter (· < 256)

/-- Reads two pairs that are written with dots. -/
def readDottedPairs? (cs : List Char) : Option (List Nat) := do
  match ← (Text.splitOn '.' cs).mapM readByte? with
  | [a, b, c, d] => some [a * 256 + b, c * 256 + d]
  | _ => none

/-- Reads pairs up to the end. -/
def readPairs? : List (List Char) → Option (List Nat)
  | [] => some []
  | [last] => ((readPair? last).map fun n => [n]).or (readDottedPairs? last)
  | piece :: rest => do return (← readPair? piece) :: (← readPairs? rest)

/-- What stands between the colons. -/
def betweenColons (cs : List Char) : List (List Char) :=
  if cs.isEmpty then [] else Text.splitOn ':' cs

/-- Reads a number of eight pairs of bytes. -/
def readIpv6? (cs : List Char) : Option (List Nat) := do
  match Text.splitFirst? [':', ':'] cs with
  | some (before, after) =>
    let first ← (betweenColons before).mapM readPair?
    let last ← readPairs? (betweenColons after)
    -- two colons stand for at least one pair
    let known := first.length + last.length
    if known < 8 then some (first ++ List.replicate (8 - known) 0 ++ last) else none
  | none =>
    let pairs ← readPairs? (betweenColons cs)
    if pairs.length = 8 then some pairs else none

/-- The number of zeros at the front. -/
def zerosAhead (pairs : List Nat) : Nat := (pairs.takeWhile (· == 0)).length

/-- The place of the longest row of zeros, and its length; the first of several. `place` is that
of the front. -/
def longestZeros (place : Nat) : List Nat → Nat × Nat
  | [] => (place, 0)
  | n :: rest =>
    let here := zerosAhead (n :: rest)
    let later := longestZeros (place + 1) rest
    if later.2 ≤ here then (place, here) else later

/-- Pairs of bytes with colons between them. -/
def pairsText (pairs : List Nat) : String :=
  ":".intercalate (pairs.map fun n => String.ofList (Nat.toDigits 16 n))

/-- Eight pairs of bytes, the longest row of zeros among them written as two colons. -/
def ipv6Text (pairs : List Nat) : String :=
  let (place, length) := longestZeros 0 pairs
  if length < 2 then pairsText pairs
  else pairsText (pairs.take place) ++ "::" ++ pairsText (pairs.drop (place + length))

end ReleasePipeline.Url
