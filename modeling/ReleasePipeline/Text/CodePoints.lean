/-
Sets and maps of code points, in the compact form in which a property of the
whole code space is written down.

A property such as "is a letter or a digit" is constant over long stretches, so a
set is the list of the lengths of its alternating stretches, beginning with one
that lies outside. A case map is constant in its *difference* over stretches, so
a map is a list of arithmetic progressions that share one difference. Both are
read by structural recursion over the table: no search, no index.
-/

set_option autoImplicit false

namespace ReleasePipeline.Text

/-! ## Sets -/

/-- A set of code points: lengths of alternating stretches from code point `0`
upwards, the first of which is outside the set. What lies past the last stretch
is outside. -/
structure CodePointSet where
  stretches : List Nat

/-- Walks the stretches; `inside` says on which side the current one lies. -/
def CodePointSet.walk : Bool → List Nat → Nat → Bool
  | _, [], _ => false
  | inside, n :: rest, c => if c < n then inside else walk (!inside) rest (c - n)

/-- Membership of a character. -/
def CodePointSet.contains (s : CodePointSet) (c : Char) : Bool :=
  walk false s.stretches c.toNat

/-- One stretch of the set is gone through. -/
@[simp] theorem CodePointSet.walk_cons (b : Bool) (n : Nat) (rest : List Nat) (c : Nat) :
    walk b (n :: rest) c = if c < n then b else walk (!b) rest (c - n) := rfl

/-! ## Maps -/

/-- The code points `first`, `first + step`, … (`count` of them), each sent to
itself plus `offset`. -/
structure CodePointShift where
  first : Nat
  count : Nat
  step : Nat
  offset : Int

/-- Whether the progression holds `c`. -/
def CodePointShift.covers (r : CodePointShift) (c : Nat) : Bool :=
  r.first ≤ c && c < r.first + r.count * r.step && (c - r.first) % r.step == 0

/-- The image of a character under the first progression that holds it; a
character in none of them stays as it is. -/
def shiftBy : List CodePointShift → Char → Char
  | [], c => c
  | r :: rest, c =>
    if r.covers c.toNat then Char.ofNat ((c.toNat : Int) + r.offset).toNat else shiftBy rest c

end ReleasePipeline.Text
