/-
The joiners in domain names.

The two joiners show nothing; they change the shape of the characters around them. They may
stand only where they make a difference.
-/
import ReleasePipeline.DomainName.Characters
import ReleasePipeline.DomainName.Composition

set_option autoImplicit false

namespace ReleasePipeline.DomainName

open Text (CodePointSet CodePointShift)

/-- Letters that join the letters on both sides of them, among those that a name can hold. -/
def joinsBothSides : CodePointSet where
  stretches := [
   1568, 1, 5, 1, 1, 1, 1, 5, 4, 13, 1, 7, 1, 2, 35, 2, 9, 15, 18, 38, 1, 2, 9, 1, 1, 1, 1, 2, 40,
   3, 2, 1, 18, 3, 5, 4, 1, 9, 1, 1, 1, 1, 1, 2, 31, 11, 3, 15, 2, 4, 1, 1, 2, 3, 2, 6, 74, 33, 86,
   5, 2, 1, 1, 10, 1, 1, 10, 1, 1, 4, 2, 1, 29, 1, 2, 5, 1, 8, 9, 10, 5, 2, 2, 6, 1, 15, 3902, 1,
   24, 96, 7, 34, 1, 6, 36752, 50, 25166, 5, 14, 4, 1, 5, 1, 3, 10, 4, 145, 1, 1, 1, 3, 3, 1, 2, 1,
   1, 2, 1, 28, 2, 338, 33, 1, 1, 415, 2, 1, 10, 96, 3, 1, 17, 12, 3, 28, 4, 2, 12, 46, 1, 1, 2, 4,
   1, 2, 2, 1, 2, 1, 1, 2, 1, 5, 1, 55639, 34]

/-- Letters that join the letter after them only. -/
def joinsFollowing : CodePointSet where
  stretches := [
   43122, 1, 25178, 1, 9, 1, 552, 1, 714, 21]

/-- Letters that join the letter before them only. -/
def joinsPreceding : CodePointSet where
  stretches := [
   1570, 4, 1, 1, 1, 1, 5, 4, 21, 1, 40, 3, 20, 18, 38, 1, 2, 9, 1, 1, 1, 1, 2, 2, 1, 1, 24, 2, 32,
   1, 4, 5, 4, 1, 9, 1, 1, 1, 1, 1, 2, 1, 29, 1, 11, 3, 15, 2, 4, 1, 1, 2, 3, 2, 198, 1, 5, 2, 1, 1,
   10, 1, 1, 3, 14, 1, 1, 26, 11, 1, 27, 3, 1, 1, 2, 2, 6, 1, 66059, 1, 1, 1, 1, 2, 3, 5, 10, 1, 3,
   1, 2, 1, 10, 1, 145, 1, 1, 3, 3, 1, 2, 1, 1, 2, 1, 8, 16, 4, 373, 1, 415, 1, 112, 1, 32, 1, 31,
   2, 62, 3, 2, 2, 2, 1, 4, 2, 5, 1]

/-- The joiner that breaks a join. -/
def nonJoiner : Char := '\u200c'

/-- The joiner that makes a join. -/
def joiner : Char := '\u200d'

/-- The rank of the marks that take the vowel off a letter. -/
def vowelKillerRank : Nat := 9

/-- A character across which letters join: a mark, or the dot below of one script. -/
def isTransparent (c : Char) : Bool := nonspacingMarks.contains c || c.toNat == 0x1E94B

/-- The nearest letter, past the characters across which letters join, joins there. -/
def joinsAt (joins : Char → Bool) (cs : List Char) : Bool :=
  (cs.dropWhile isTransparent).head?.any joins

/-- A joiner makes a difference between what stands before it, the last character first, and what
follows: behind a mark that takes the vowel off; and one that breaks a join also between two
letters that would join. -/
def joinerCounts (c : Char) (before after : List Char) : Bool :=
  before.head?.any (rank · == vowelKillerRank)
    || (c == nonJoiner
      && joinsAt (fun d => joinsFollowing.contains d || joinsBothSides.contains d) before
      && joinsAt (fun d => joinsPreceding.contains d || joinsBothSides.contains d) after)

/-- Every joiner after some characters, the last one first, makes a difference. -/
def joinersCountAfter (before : List Char) : List Char → Bool
  | [] => true
  | c :: cs =>
    (!(c == nonJoiner || c == joiner) || joinerCounts c before cs)
      && joinersCountAfter (c :: before) cs

/-- Every joiner of a label makes a difference. -/
def joinersCount (label : List Char) : Bool := joinersCountAfter [] label

end ReleasePipeline.DomainName
