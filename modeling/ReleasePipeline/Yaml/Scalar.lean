/-
What a scalar means.

A plain scalar without a tag is null, a truth value, a number or a text, by its
spelling. A standard tag asks for one of these and refuses any other spelling; any
other tag that the document does not set itself makes the scalar a text. A tag that the
document sets itself counts only if it is a text.
-/
import ReleasePipeline.Text.Hexadecimal
import ReleasePipeline.Text.Utf8
import ReleasePipeline.Yaml.Token
import ReleasePipeline.Yaml.Value

set_option autoImplicit false

namespace ReleasePipeline.Yaml

/-! ## Spellings -/

/-- The spellings of null, the empty one apart. -/
def isNull (cs : List Char) : Bool :=
  ["~", "null", "Null", "NULL"].contains (String.ofList cs)

/-- Reads a truth value. -/
def readBool? (cs : List Char) : Option Bool :=
  let s := String.ofList cs
  if ["true", "True", "TRUE"].contains s then some true
  else if ["false", "False", "FALSE"].contains s then some false
  else none

/-- The number that digits of the given base spell. -/
def readDigits? (base : Nat) (cs : List Char) : Option Nat :=
  if cs.isEmpty then none
  else cs.foldlM (fun n c => do
    let d ← Text.hexValue? c
    if d < base then some (n * base + d) else none) 0

/-- Without one sign at the front. -/
def dropSign : List Char → List Char
  | '+' :: cs => cs
  | '-' :: cs => cs
  | cs => cs

/-- Digits that begin with a needless zero: such a scalar is a text. -/
def isPadded (cs : List Char) : Bool :=
  match dropSign cs with
  | '0' :: c :: rest => (c :: rest).all Char.isDigit
  | _ => false

/-- Reads digits of base sixteen, eight or two behind their mark. -/
def readMarked? : List Char → Option Nat
  | '0' :: 'x' :: cs => readDigits? 16 cs
  | '0' :: 'o' :: cs => readDigits? 8 cs
  | '0' :: 'b' :: cs => readDigits? 2 cs
  | _ => none

/-- Reads digits of base ten that are not padded, or of another base behind its mark. -/
def readMagnitude? (cs : List Char) : Option Nat :=
  match readMarked? cs with
  | some n => some n
  | none => if isPadded cs then none else readDigits? 10 cs

/-- Reads a whole number of any size. -/
def readInteger? : List Char → Option Int
  | '-' :: cs => (readMagnitude? cs).map fun n => -(n : Int)
  | '+' :: cs => (readMagnitude? cs).map fun n => (n : Int)
  | cs => (readMagnitude? cs).map fun n => (n : Int)

/-- A whole number that a value can hold: one of 64 bits, with a sign if it is negative. -/
def isStorable (n : Int) : Bool := -9223372036854775808 ≤ n && n ≤ 18446744073709551615

/-- A whole number that is refused for its size: one of 128 bits. Beyond those the
spelling is no whole number any more. -/
def isOversized (n : Int) : Bool :=
  !isStorable n && -170141183460469231731687303715884105728 ≤ n
    && n ≤ 340282366920938463463374607431768211455

/-- Reads a number with a point or an exponent. Infinities have spellings of their own, and
a decimal beyond the largest number is none. -/
def readFloat? (cs : List Char) : Option Binary64 :=
  let s := String.ofList cs
  if [".inf", ".Inf", ".INF", "+.inf", "+.Inf", "+.INF"].contains s then some (.infinite false)
  else if ["-.inf", "-.Inf", "-.INF"].contains s then some (.infinite true)
  else if [".nan", ".NaN", ".NAN"].contains s then some .nan
  else
    let decimal := match cs with
      | '+' :: '+' :: _ => none
      | '+' :: '-' :: _ => none
      | '+' :: cs => Binary64.ofDecimalText? cs
      | cs => Binary64.ofDecimalText? cs
    decimal.filter Binary64.isFinite

/-! ## Resolution -/

/-- The value of a plain scalar without a tag; a whole number of refused size has none. -/
def resolvePlain? (cs : List Char) : Option Value :=
  if cs.isEmpty || isNull cs then some .null
  else
    match readBool? cs with
    | some b => some (.bool b)
    | none =>
      let asFloat := if isPadded cs then none else readFloat? cs
      let otherwise : Value := (asFloat.map Value.float).getD (.text (String.ofList cs))
      match readInteger? cs with
      | some n =>
        if isStorable n then some (.int n) else if isOversized n then none else some otherwise
      | none => some otherwise

/-- The standard tag of a type. -/
def standardTag (type : String) : TagOctets := tagOctets ("tag:yaml.org,2002:" ++ type)

/-- The document sets the tag itself: it begins with an exclamation mark. -/
def isOwnTag (tag : TagOctets) : Bool := tag.head? == (tagOctets "!").head?

/-- The name of a tag that the document sets itself. -/
def ownTag? (tag : TagOctets) : Option String :=
  if isOwnTag tag then (Text.decode? ⟨tag.toArray⟩).map tagName else none

/-- The value of a scalar with a tag that has no name, or with none. -/
def resolveScalar? (tag : Option TagOctets) (cs : List Char) (plain : Bool) : Option Value :=
  match tag with
  | none => if plain then resolvePlain? cs else some (.text (String.ofList cs))
  | some t =>
    if t = standardTag "bool" then (readBool? cs).map .bool
    else if t = standardTag "int" then
      (readInteger? cs).bind fun n => if isStorable n then some (.int n) else none
    else if t = standardTag "float" then (readFloat? cs).map .float
    else if t = standardTag "null" then (if isNull cs then some .null else none)
    else if isOwnTag t && plain then resolvePlain? cs
    else some (.text (String.ofList cs))

end ReleasePipeline.Yaml
