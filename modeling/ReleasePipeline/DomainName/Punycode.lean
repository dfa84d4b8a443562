/-
Labels of any script in letters, digits and hyphens.

The plain characters of a label are written first, and then, as numbers, where to put each of the
others: the smallest code point first, and as the distance from the one before. A number is
written in digits of base 36, the least first; which digit is the last of a number follows from
a threshold that adapts to the numbers so far.
-/
import ReleasePipeline.Text.Occurrence

set_option autoImplicit false

namespace ReleasePipeline.DomainName.Punycode

/-! ## Digits -/

/-- The number of digits. -/
def base : Nat := 36

/-- The digit of a value: letters first. -/
def digit (d : Nat) : Char := if d < 26 then Char.ofNat (97 + d) else Char.ofNat (22 + d)

/-- The value of a digit. -/
def digitValue? (c : Char) : Option Nat :=
  if 'a' ≤ c ∧ c ≤ 'z' then some (c.toNat - 97)
  else if 'A' ≤ c ∧ c ≤ 'Z' then some (c.toNat - 65)
  else if c.isDigit then some (c.toNat - 22)
  else none

/-- Digits below the threshold end a number; `k` is the base times the place of the digit,
from one on. -/
def threshold (bias k : Nat) : Nat :=
  if k ≤ bias then 1 else if bias + 26 ≤ k then 26 else k - bias

/-- A digit of no value always ends a number. -/
theorem one_le_threshold (bias k : Nat) : 1 ≤ threshold bias k := by
  unfold threshold
  split
  · omega
  · split <;> omega

/-- How often a number has to be divided until it is small, times the base, and the small
number. -/
def shrink (k delta : Nat) : Nat × Nat :=
  if 455 < delta then shrink (k + base) (delta / 35) else (k, delta)
termination_by delta
decreasing_by omega

/-- The bias after a number, when that many characters are in place. -/
def adapt (delta count : Nat) (isFirst : Bool) : Nat :=
  let halved := if isFirst then delta / 700 else delta / 2
  let (k, small) := shrink 0 (halved + halved / count)
  k + base * small / (small + 38)

/-- The bias at the start. -/
def firstBias : Nat := 72

/-- The first code point that is not plain. -/
def firstOther : Nat := 128

/-! ## Reading -/

/-- Reads a number; a digit adds its value times `weight` to `sum`. -/
def readNumber? (bias k weight sum : Nat) : List Char → Option (Nat × List Char)
  | [] => none
  | c :: cs =>
    match digitValue? c with
    | none => none
    | some d =>
      if d < threshold bias k then some (sum + d * weight, cs)
      else readNumber? bias (k + base) (weight * (base - threshold bias k)) (sum + d * weight) cs

/-- A number has at least one digit, and so the reading of numbers ends. -/
theorem length_lt_of_readNumber? {bias : Nat} {cs rest : List Char} {n : Nat} :
    ∀ {k weight sum : Nat}, readNumber? bias k weight sum cs = some (n, rest) →
      rest.length < cs.length := by
  induction cs with
  | nil => simp [readNumber?]
  | cons c cs ih =>
    intro k weight sum h
    rw [readNumber?] at h
    split at h
    · simp at h
    · split at h
      · simp only [Option.some.injEq, Prod.mk.injEq] at h
        simp [h.2]
      · have := ih h
        simp only [List.length_cons]
        omega

/-- The character with a number, if there is one. -/
def char? (n : Nat) : Option Char := if h : n.isValidChar then some (Char.ofNatAux n h) else none

/-- Puts characters into their places. `n` is the last code point, and `place` the place after
it. -/
def insertAll (bias n place : Nat) (label digits : List Char) : Option (List Char) :=
  match digits with
  | [] => some label
  | c :: cs =>
    match _h : readNumber? bias base 1 0 (c :: cs) with
    | none => none
    | some (delta, rest) =>
      let count := label.length + 1
      let next := n + (place + delta) / count
      let at? := (place + delta) % count
      match char? next with
      | none => none
      | some d =>
        insertAll (adapt delta count (place == 0)) next (at? + 1)
          (label.take at? ++ d :: label.drop at?) rest
termination_by digits.length
decreasing_by exact length_lt_of_readNumber? _h

/-- The plain characters of a label in digits, which are those before the last hyphen, and its
digits. A hyphen with nothing before it is no separator. -/
def separate (cs : List Char) : List Char × List Char :=
  let digits := (cs.reverse.takeWhile (· != '-')).reverse
  if digits.length + 1 < cs.length then (cs.take (cs.length - digits.length - 1), digits)
  else ([], cs)

/-- Reads a label. -/
def read? (cs : List Char) : Option (List Char) :=
  let (plain, digits) := separate cs
  insertAll firstBias firstOther 0 plain digits

/-! ## Writing -/

/-- Writes a number. -/
def writeNumber (bias k n : Nat) : List Char :=
  let t := threshold bias k
  if n < t then [digit n]
  else digit (t + (n - t) % (base - t)) :: writeNumber bias (k + base) ((n - t) / (base - t))
termination_by n
decreasing_by
  have := one_le_threshold bias k
  have := Nat.div_le_self (n - threshold bias k) (base - threshold bias k)
  omega

/-- How far the writing has come. -/
structure Progress where
  /-- The digits so far. -/
  digits : List Char
  bias : Nat
  /-- The distance from the last character that was written. -/
  delta : Nat
  /-- The number of characters that are in place. -/
  count : Nat

/-- Goes past a character of the label while the places of the code point `n` are written;
`plain` characters were in place at the start. -/
def pass (plain n : Nat) (p : Progress) (c : Char) : Progress :=
  if c.toNat < n then { p with delta := p.delta + 1 }
  else if c.toNat = n then
    { digits := p.digits ++ writeNumber p.bias base p.delta
      bias := adapt p.delta (p.count + 1) (p.count == plain)
      delta := 0
      count := p.count + 1 }
  else p

/-- Writes the places of code points, in ascending order; `n` is where the last one left. -/
def writeAll (label : List Char) (plain n : Nat) (p : Progress) :
    List Nat → Progress
  | [] => p
  | m :: rest =>
    let q := label.foldl (pass plain m) { p with delta := p.delta + (m - n) * (p.count + 1) }
    writeAll label plain (m + 1) { q with delta := q.delta + 1 } rest

/-- Writes a label. -/
def write (label : List Char) : List Char :=
  let plain := label.filter (·.toNat < firstOther)
  let others := ((label.map Char.toNat).filter (firstOther ≤ ·)).eraseDups.mergeSort
  let start : Progress := { digits := [], bias := firstBias, delta := 0, count := plain.length }
  plain ++ (if plain.isEmpty then [] else ['-'])
    ++ (writeAll label plain.length firstOther start others).digits

end ReleasePipeline.DomainName.Punycode
