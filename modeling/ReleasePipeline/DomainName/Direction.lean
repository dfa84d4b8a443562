/-
The direction of domain names.

A name that holds characters of a script that runs from right to left is shown in an order that
could be mistaken. So each label of such a name has to run in one direction, and must not end in a
character that would be drawn to the neighbouring label. A label runs from right to left if it
begins with a character that does, and the marks at its end do not count.
-/
import ReleasePipeline.DomainName.Characters

set_option autoImplicit false

namespace ReleasePipeline.DomainName

open Text (CodePointSet CodePointShift)

/-- Letters of scripts that run from right to left, other than Arabic. -/
def rightToLeft : CodePointSet where
  stretches := [
   1470, 1, 1, 1, 2, 1, 2, 1, 9, 54, 442, 43, 9, 2, 4, 3, 1, 24, 4, 1, 9, 1, 3, 1, 7, 41, 5, 2,
   65440, 287, 1, 225, 15, 40, 8, 165, 6, 78, 7, 448, 64, 41, 6, 241, 32, 43, 2, 21, 62, 48, 64, 18,
   4, 122, 55296, 208, 82, 34, 7, 806]

/-- Letters of Arabic and its relatives. -/
def arabicLetters : CodePointSet where
  stretches := [
   1544, 1, 2, 1, 1, 1, 13, 48, 34, 3, 1, 101, 15, 2, 7, 2, 10, 23, 1, 30, 29, 89, 11, 15, 160, 55,
   9, 42, 62184, 17, 688, 397, 3328, 36, 414, 14, 96, 22, 11, 31, 56577, 639]

/-- Digits of Arabic. -/
def arabicNumbers : CodePointSet where
  stretches := [
   1632, 10, 1, 2, 67267, 16, 288, 32]

/-- Digits of Europe and their relatives. -/
def europeanNumbers : CodePointSet where
  stretches := [
   48, 10, 1718, 10, 64487, 31]

/-- Signs before or between numbers. -/
def europeanSeparators : CodePointSet where
  stretches := [
   43, 1, 1, 1, 8676, 1]

/-- Marks between the parts of a number. -/
def commonSeparators : CodePointSet where
  stretches := [
   44, 1, 1, 2, 10, 1, 1489, 1, 6711, 1]

/-- Marks that follow a number. -/
def europeanTerminators : CodePointSet where
  stretches := [
   35, 3, 124, 4, 10, 6, 1241, 2, 120, 2, 95, 1, 903, 2, 7, 1, 245, 8, 256, 1, 581, 1, 2459, 1,
   2132, 5, 107, 48, 94, 12, 217, 1, 34340, 8, 30621, 4, 49950, 465]

/-- Characters that show nothing. -/
def boundaryNeutrals : CodePointSet where
  stretches := [
   0, 9, 5, 14, 99, 34, 8043, 4]

/-- Characters without a direction. -/
def neutrals : CodePointSet where
  stretches := [
   33, 2, 3, 5, 16, 38, 26, 4, 34, 1, 4, 10, 6, 41, 24, 1, 449, 2, 7, 14, 2, 28, 1, 17, 117, 2, 127,
   2, 402, 5, 119, 2, 6, 2, 206, 1, 10, 1, 268, 4, 1017, 6, 1, 6, 120, 7, 699, 4, 1106, 16, 96, 1,
   666, 5, 336, 32, 304, 6, 152, 34, 1552, 32, 5, 15, 1, 91, 100, 42, 12, 20, 60, 136, 2, 290, 69,
   26, 1, 790, 1, 339, 256, 816, 181, 7, 13, 7, 256, 517, 3, 25, 15, 1, 6, 4, 2, 4, 95, 1, 90, 1,
   196, 48, 7120, 64, 22160, 64, 317, 3, 99, 1, 10, 3, 127, 35, 101, 1, 159, 4, 72, 12, 746, 86,
   20483, 605, 37, 46, 654, 1, 62, 77, 3, 64, 1871, 1, 537, 7, 558, 1, 353, 42, 344, 20, 1530, 32,
   2389, 8, 4, 30, 20451, 1, 23581, 768, 745, 89, 3, 123, 64, 96, 7056, 608, 29, 3, 61, 57, 122,
   3488]

/-- The code points of the marks that run from left to right, unlike others of their kind. -/
def leftToRightMarks : List Nat := [0xCBF, 0xCC6, 0x11A07, 0x11A08, 0x11C3F]

/-- How a character takes part in the direction of a text. -/
inductive Direction where
  | left
  | right
  | arabic
  | arabicNumber
  | europeanNumber
  | europeanSeparator
  | commonSeparator
  | europeanTerminator
  | neutral
  | boundary
  | mark
  deriving DecidableEq, Repr

/-- How a character takes part in the direction of a name. -/
def direction (c : Char) : Direction :=
  if rightToLeft.contains c then .right
  else if arabicLetters.contains c then .arabic
  else if arabicNumbers.contains c then .arabicNumber
  else if europeanNumbers.contains c then .europeanNumber
  else if europeanSeparators.contains c then .europeanSeparator
  else if commonSeparators.contains c then .commonSeparator
  else if europeanTerminators.contains c then .europeanTerminator
  else if boundaryNeutrals.contains c then .boundary
  else if neutrals.contains c then .neutral
  else if nonspacingMarks.contains c && !leftToRightMarks.contains c.toNat then .mark
  else .left

/-- Text runs from right to left somewhere. -/
def runsRightToLeft (cs : List Char) : Bool :=
  cs.any fun c => [Direction.right, .arabic, .arabicNumber].contains (direction c)

/-- What may stand anywhere in a label, whatever its direction. -/
def anywhere : List Direction :=
  [.europeanNumber, .europeanSeparator, .commonSeparator, .europeanTerminator, .neutral,
    .boundary, .mark]

/-- A label that begins as it does runs in one direction. The marks at its end are not counted
as its end. -/
def isOneWay (label : List Char) : Bool :=
  let directions := label.map direction
  let last := (directions.reverse.dropWhile (· == .mark)).head?
  let within (ds : List Direction) : Bool := directions.all ds.contains
  let endsIn (ds : List Direction) : Bool := last.any ds.contains
  match directions.head? with
  | none => true
  | some .left => within (.left :: anywhere) && endsIn [.left, .europeanNumber]
  | some .right | some .arabic =>
    within (.right :: .arabic :: .arabicNumber :: anywhere)
      && endsIn [.right, .arabic, .europeanNumber, .arabicNumber]
      -- digits of both kinds would be shown in different orders
      && !(directions.contains .europeanNumber && directions.contains .arabicNumber)
  | some _ => false

end ReleasePipeline.DomainName
