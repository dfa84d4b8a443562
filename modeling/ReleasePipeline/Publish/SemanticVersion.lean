/-
Semantic versions: three numbers, and possibly a pre-release and build metadata.

Numbers have no needless zero in front and fit 64 bits. The parts of a pre-release are
separated by dots and not empty, and a part of digits alone is a number too; build metadata
is less strict about zeros.
-/
import ReleasePipeline.Text.Occurrence

set_option autoImplicit false

namespace ReleasePipeline

/-- A semantic version. -/
structure SemanticVersion where
  major : Nat
  minor : Nat
  patch : Nat
  preRelease : List String := []
  build : List String := []
  deriving DecidableEq, Repr

namespace SemanticVersion

/-- The digits of a number without a zero in front of others. -/
def isPlainNumber (digits : List Char) : Bool :=
  digits.all Char.isDigit && !digits.isEmpty && (digits.length == 1 || digits.head? != some '0')

/-- The largest number that a part can be. -/
def maxNumber : Nat := 18446744073709551615

/-- Reads one of the three numbers. -/
def number? (digits : List Char) : Option Nat :=
  if isPlainNumber digits then
    ((String.ofList digits).toNat?).filter (· ≤ maxNumber)
  else none

/-- A character that parts after the numbers can hold. -/
def isPartChar (c : Char) : Bool := c.isAlphanum || c == '-'

/-- A part of build metadata. -/
def isBuildPart (part : List Char) : Bool := !part.isEmpty && part.all isPartChar

/-- A part of a pre-release. -/
def isPreReleasePart (part : List Char) : Bool :=
  isBuildPart part && (!part.all Char.isDigit || isPlainNumber part)

/-- Reads parts that are separated by dots. -/
def parts? (good : List Char → Bool) (cs : List Char) : Option (List String) :=
  (Text.splitOn '.' cs).mapM fun part => if good part then some (String.ofList part) else none

/-- A text and what follows the first mark in it, if the mark is there. -/
def cutAt (mark : Char) (cs : List Char) : List Char × Option (List Char) :=
  match Text.splitOnce? mark cs with
  | some (before, after) => (before, some after)
  | none => (cs, none)

/-- Reads a version. -/
def parse? (text : String) : Option SemanticVersion := do
  let (front, build) := cutAt '+' text.toList
  let (numbers, pre) := cutAt '-' front
  match Text.splitOn '.' numbers with
  | [major, minor, patch] =>
    return {
      major := ← number? major
      minor := ← number? minor
      patch := ← number? patch
      preRelease := ← (pre.map (parts? isPreReleasePart)).getD (some [])
      build := ← (build.map (parts? isBuildPart)).getD (some []) }
  | _ => none

/-- The version comes before the release of its numbers. -/
def isPreRelease (v : SemanticVersion) : Bool := !v.preRelease.isEmpty

end SemanticVersion

end ReleasePipeline
