/-
Names of hosts in any script.

A name is compared and sent in a plain form. Its characters are replaced by those they stand for
and put together, and each label that is not plain then is written in letters, digits and
hyphens behind a mark of its own. A label that comes with the mark is read, and has to be one that
could have been written.
-/
import ReleasePipeline.DomainName.Direction
import ReleasePipeline.DomainName.Joining
import ReleasePipeline.DomainName.Mapping
import ReleasePipeline.DomainName.Punycode

set_option autoImplicit false

namespace ReleasePipeline.DomainName

/-! ## Characters -/

/-- A plain character. -/
def isPlain (c : Char) : Bool := c.toNat < 128

/-- A plain character that no name of a host holds: controls, the blank, and the marks that have a
meaning in an address. -/
def isReserved (c : Char) : Bool :=
  c.toNat ≤ 32 || c.toNat == 127 || "%#/:<>?@[\\]^|".toList.contains c

/-- What a name holds in place of a character. -/
def replace? (c : Char) : Option (List Char) :=
  match image? c with
  | some cs => some cs
  | none => if refused.contains c then none else some (if ignored.contains c then [] else [c])

/-- What a name holds in place of several characters, put together. -/
def normalized? (cs : List Char) : Option (List Char) :=
  (cs.mapM replace?).map fun images => composedForm images.flatten

/-! ## Labels -/

/-- The mark of labels that are written in letters, digits and hyphens. -/
def mark : List Char := ['x', 'n', '-', '-']

/-- The longest label that is read. -/
def longestRead : Nat := 2000

/-- The longest label that is written. -/
def longestWritten : Nat := 1000

/-- What a label with the mark stands for, if it could have been written. -/
def readLabel? (rest : List Char) : Option (List Char) :=
  if longestRead < rest.length then none
  else
    match Punycode.read? rest with
    | none => none
    | some label =>
      if label.all isPlain || normalized? label != some label then none else some label

/-- What a label stands for. -/
def label? (cs : List Char) : Option (List Char) :=
  if mark.isPrefixOf cs then readLabel? (cs.drop mark.length) else some cs

/-- A label is well formed. -/
def isLabel (cs : List Char) : Bool :=
  !cs.any isReserved && !cs.head?.any isMark && joinersCount cs
    && (cs.all isPlain || cs.length ≤ longestWritten)

/-- The plain form of a label. -/
def plainLabel (cs : List Char) : List Char :=
  if cs.all isPlain then cs else mark ++ Punycode.write cs

/-! ## Names -/

/-- The plain form of a name. -/
def plain? (cs : List Char) : Option (List Char) := do
  let labels ← (Text.splitOn '.' (← normalized? cs)).mapM label?
  let oneWay := !labels.any runsRightToLeft || labels.all isOneWay
  if labels.all isLabel && oneWay then
    some (['.'].intercalate (labels.map plainLabel))
  else none

end ReleasePipeline.DomainName
