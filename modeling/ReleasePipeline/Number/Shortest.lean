/-
The fewest decimal digits that identify a binary number, and their layout.

All reals nearer to a number than to its neighbours are read as that number; they form
an interval, closed when the mantissa is even. For one, two, … digits the two decimals
next to the number are tested against the interval, in exact arithmetic, and the first
length at which one lies inside is the shortest. Of two the nearer is taken.
-/
import ReleasePipeline.Number.Binary64

set_option autoImplicit false

namespace ReleasePipeline

/-- A decimal: the digits of a whole number times a power of ten. -/
structure Decimal where
  digits : List Char
  exponent : Int
  deriving DecidableEq, Inhabited

/-- What to do when two decimals of the shortest length are equally near. -/
inductive TieRule where
  | toEven
  | up
  deriving DecidableEq

namespace Decimal

/-- A whole number times a power of ten, without zeros at the end of its digits. -/
def ofNat (n : Nat) (exponent : Int) : Decimal :=
  let backwards := (Nat.toDigits 10 n).reverse
  let zeros := (backwards.takeWhile (· == '0')).length
  ⟨(backwards.drop zeros).reverse, exponent + zeros⟩

/-- Whether `candidate` lies among the reals that are read as `mantissa`, all times the
same `unit`. `narrow` tells that the neighbour below is only half as far away as the one
above. -/
def readsBack (mantissa unit : Nat) (narrow : Bool) (candidate : Nat) : Bool :=
  let low := (4 * mantissa - (if narrow then 1 else 2)) * unit
  let high := (4 * mantissa + 2) * unit
  if mantissa % 2 = 0 then low ≤ 4 * candidate && 4 * candidate ≤ high
  else low < 4 * candidate && 4 * candidate < high

/-- The better of the two multiples of `grid` next to `exact`, if one reads back. -/
def pick? (tie : TieRule) (inside : Nat → Bool) (exact grid : Nat) : Option Nat :=
  let below := exact / grid
  match inside (below * grid), inside ((below + 1) * grid) with
  | false, false => none
  | true, false => some below
  | false, true => some (below + 1)
  | true, true =>
    let middle := (2 * below + 1) * grid
    if 2 * exact < middle then some below
    else if middle < 2 * exact then some (below + 1)
    else match tie with
      | .up => some (below + 1)
      | .toEven => some (below + below % 2)

/-- The shortest decimal that is read as `mantissa · 2 ^ exponent`, a positive number. -/
def shortest (tie : TieRule) (mantissa : Nat) (exponent : Int) : Decimal :=
  let unit := if 0 ≤ exponent then Nat.pow 2 exponent.toNat else Nat.pow 5 (-exponent).toNat
  let power : Int := min exponent 0
  let exact := mantissa * unit
  let length := (Nat.toDigits 10 exact).length
  -- below a power of two the numbers lie twice as dense
  let narrow := mantissa = Nat.pow 2 52 && -1074 < exponent
  let found := (List.range 17).findSome? fun n =>
    let dropped := length - (n + 1)
    (pick? tie (readsBack mantissa unit narrow) exact (Nat.pow 10 dropped)).map fun c =>
      ofNat c (power + dropped)
  -- seventeen digits are always enough
  found.getD (ofNat exact power)

/-! ## Layout -/

/-- A number of zeros. -/
def zeros (n : Int) : List Char := List.replicate n.toNat '0'

/-- Digits and a point, without an exponent, with at least one digit on either side of the
point. -/
def positional (d : Decimal) : List Char :=
  let point : Int := d.digits.length + d.exponent
  if 0 ≤ d.exponent then d.digits ++ zeros d.exponent ++ ['.', '0']
  else if 0 < point then d.digits.take point.toNat ++ '.' :: d.digits.drop point.toNat
  else ['0', '.'] ++ zeros (-point) ++ d.digits

/-- One digit before the point, and an exponent; no point if there is but one digit. -/
def scientific (d : Decimal) : List Char :=
  let point : Int := d.digits.length + d.exponent
  let power := 'e' :: (toString (point - 1)).toList
  match d.digits with
  | [] => power
  | [digit] => digit :: power
  | digit :: more => digit :: '.' :: more ++ power

/-- Positional when the point falls among the first sixteen digits or fewer than five zeros
after the point come before the first digit; scientific otherwise. -/
def general (d : Decimal) : List Char :=
  let point : Int := d.digits.length + d.exponent
  if -5 < point && point ≤ 16 then d.positional else d.scientific

end Decimal

namespace Binary64

/-- The sign of a number that is written with one. -/
def signText (negative : Bool) : String := if negative then "-" else ""

/-- The text of a number in a YAML document, which reads back as the number: `1e16` where
`messageText` has sixteen zeros, and `.inf` where it has `inf`. -/
def yamlText : Binary64 → String
  | .nan => ".nan"
  | .infinite negative => signText negative ++ ".inf"
  | .finite negative 0 _ => signText negative ++ "0.0"
  | .finite negative m e =>
    signText negative ++ String.ofList (Decimal.shortest .toEven m e).general

/-- The text of a number in a message: never with an exponent. -/
def messageText : Binary64 → String
  | .nan => "NaN"
  | .infinite negative => signText negative ++ "inf"
  | .finite negative 0 _ => signText negative ++ "0.0"
  | .finite negative m e =>
    signText negative ++ String.ofList (Decimal.shortest .up m e).positional

end Binary64

end ReleasePipeline
