/-
Binary floating-point numbers of 64 bits, as exact values.

A finite number is a sign, a whole mantissa below `2 ^ 53` and a power of two, in the
form in which the mantissa is as large as it can be; so equal values have one form,
and everything about them is arithmetic of whole numbers.
-/

set_option autoImplicit false

namespace ReleasePipeline

/-- A binary floating-point number. -/
inductive Binary64 where
  | nan
  | infinite (negative : Bool)
  /-- `± mantissa · 2 ^ exponent`. -/
  | finite (negative : Bool) (mantissa : Nat) (exponent : Int)
  deriving DecidableEq, Inhabited

namespace Binary64

/-- Zero, with a sign. -/
def zero (negative : Bool) : Binary64 := .finite negative 0 0

/-- The same number: not-a-number is the same as itself, and the zeros are the same. -/
def same : Binary64 → Binary64 → Bool
  | .finite _ 0 _, .finite _ 0 _ => true
  | a, b => a == b

/-! ## Rounding -/

/-- `num / den` to the nearest whole number, a half to the even neighbour. -/
def roundQuotient (num den : Nat) : Nat :=
  let q := num / den
  let r := num % den
  if 2 * r < den then q
  else if den < 2 * r then q + 1
  else q + q % 2

/-- `num · 2 ^ k` over `den`, as a fraction of whole numbers. -/
def scaled (num den : Nat) (k : Int) : Nat × Nat :=
  if 0 ≤ k then (num * Nat.pow 2 k.toNat, den) else (num, den * Nat.pow 2 (-k).toNat)

/-- The exponent at which `num / den` has a mantissa of 53 bits, but never less than that
of the smallest number. -/
def exponentOf (num den : Nat) : Int :=
  let e : Int := (num.log2 : Int) - den.log2 - 53
  let (n, d) := scaled num den (-e)
  let e := if Nat.pow 2 53 ≤ n / d then e + 1 else e
  max e (-1074)

/-- The number nearest to `num / den`. -/
def ofQuotient (negative : Bool) (num den : Nat) : Binary64 :=
  if num = 0 then zero negative
  else
    let e := exponentOf num den
    let (n, d) := scaled num den (-e)
    let m := roundQuotient n d
    -- rounding up may have made the mantissa one bit longer
    let (m, e) := if m = Nat.pow 2 53 then (Nat.pow 2 52, e + 1) else (m, e)
    if 971 < e then .infinite negative
    else if m = 0 then zero negative
    else .finite negative m e

/-- The number nearest to `digits · 10 ^ exponent`. Exponents far outside the range need
no arithmetic. -/
def ofDecimal (negative : Bool) (digits : Nat) (exponent : Int) : Binary64 :=
  if digits = 0 then zero negative
  else
    let size : Int := (Nat.toDigits 10 digits).length + exponent
    if 400 < size then .infinite negative
    else if size < -400 then zero negative
    else if 0 ≤ exponent then ofQuotient negative (digits * Nat.pow 10 exponent.toNat) 1
    else ofQuotient negative digits (Nat.pow 10 (-exponent).toNat)

/-- Whether the number is neither infinite nor not-a-number. -/
def isFinite : Binary64 → Bool
  | .finite .. => true
  | _ => false

/-! ## Decimal spelling -/

/-- Reads an exponent: a sign and at least one digit. -/
def readExponent? (cs : List Char) : Option Int :=
  let (negative, digits) : Bool × List Char := match cs with
    | '-' :: rest => (true, rest)
    | '+' :: rest => (false, rest)
    | cs => (false, cs)
  if digits.isEmpty || !digits.all Char.isDigit then none
  else
    let n : Nat := digits.foldl (fun n c => 10 * n + (c.toNat - 48)) 0
    some (if negative then -(n : Int) else n)

/-- Reads a decimal: possibly a minus sign, digits with a point among them or at either
end, and possibly an exponent. -/
def ofDecimalText? (cs : List Char) : Option Binary64 := do
  let (negative, cs) : Bool × List Char := match cs with
    | '-' :: rest => (true, rest)
    | cs => (false, cs)
  let whole := cs.takeWhile Char.isDigit
  let cs := cs.drop whole.length
  let fraction := match cs with
    | '.' :: rest => rest.takeWhile Char.isDigit
    | _ => []
  let cs := match cs with
    | '.' :: rest => rest.drop fraction.length
    | cs => cs
  if whole.isEmpty && fraction.isEmpty then none
  else
    let exponent ← match cs with
      | [] => some 0
      | c :: rest => if c == 'e' || c == 'E' then readExponent? rest else none
    let digits := (whole ++ fraction).foldl (fun n c => 10 * n + (c.toNat - 48)) 0
    some (ofDecimal negative digits (exponent - fraction.length))

end Binary64

end ReleasePipeline
