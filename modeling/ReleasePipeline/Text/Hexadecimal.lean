/-
Numbers in hexadecimal digits, and tables that are written with them.

A table of a few thousand code points is kept as text, for short: its rows stand between
commas, and the numbers of a row between blanks.
-/
import ReleasePipeline.Text.Occurrence

set_option autoImplicit false

namespace ReleasePipeline.Text

/-- The value of a hexadecimal digit. -/
def hexValue? (c : Char) : Option Nat :=
  if c.isDigit then some (c.toNat - 48)
  else if 'a' ≤ c ∧ c ≤ 'f' then some (c.toNat - 87)
  else if 'A' ≤ c ∧ c ≤ 'F' then some (c.toNat - 55)
  else none

/-- The number that hexadecimal digits spell. -/
def hexNumber? (digits : List Char) : Option Nat :=
  digits.foldlM (fun n c => (hexValue? c).map (n * 16 + ·)) 0

/-- The numbers between the blanks of a row. -/
def hexRow (cs : List Char) : List Nat :=
  ((splitOn ' ' cs).filter (!·.isEmpty)).filterMap hexNumber?

/-- The rows of a table, which may be spread over several texts. -/
def hexRows (texts : List String) : List (List Nat) :=
  texts.flatMap fun text => (splitOn ',' text.toList).map hexRow

end ReleasePipeline.Text
