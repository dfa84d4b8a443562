/-
Placeholders inside a template, and the cutting of a template at them.

A placeholder is two opening braces, blanks, possibly a dot, an identifier that may
be followed by a dot and a second identifier, blanks, and two closing braces. The
cutting goes from the left: wherever a placeholder can be read it is one, and every
other character stands for itself.
-/
import ReleasePipeline.Text.Blank

set_option autoImplicit false

namespace ReleasePipeline.Template

/-! ## Identifiers -/

/-- A character that an identifier may begin with. -/
def isIdentifierStart (c : Char) : Bool := c.isAlpha || c == '_'

/-- A character that an identifier may go on with. -/
def isIdentifierRest (c : Char) : Bool := c.isAlphanum || c == '_'

/-- Reads the longest identifier at the front. -/
def readIdentifier? : List Char → Option (List Char × List Char)
  | [] => none
  | c :: cs =>
    if isIdentifierStart c then
      some (c :: cs.takeWhile isIdentifierRest, cs.dropWhile isIdentifierRest)
    else none

/-- Reads one identifier, or two with a dot between them. A dot that no identifier
follows is an error. -/
def readFieldName? (cs : List Char) : Option (List Char × List Char) :=
  match readIdentifier? cs with
  | none => none
  | some (first, '.' :: rest) =>
    (readIdentifier? rest).map fun (second, after) => (first ++ '.' :: second, after)
  | some (first, rest) => some (first, rest)

/-- Reads one dot at the front, if it is there. -/
def readDot : List Char → List Char × List Char
  | '.' :: cs => (['.'], cs)
  | cs => ([], cs)

/-- Reads the blanks at the front. -/
def readBlanks (cs : List Char) : List Char × List Char := cs.span Text.isBlank

/-! ## Placeholders -/

/-- Reads a placeholder at the front: its field name and its whole spelling. -/
def readPlaceholder? : List Char → Option (List Char × List Char)
  | '{' :: '{' :: cs =>
    let (before, cs) := readBlanks cs
    let (dot, cs) := readDot cs
    match readFieldName? cs with
    | none => none
    | some (name, cs) =>
      match readBlanks cs with
      | (after, '}' :: '}' :: _) =>
        some (name, '{' :: '{' :: before ++ dot ++ name ++ after ++ ['}', '}'])
      | _ => none
  | _ => none

/-- A part of a template. -/
inductive Piece where
  /-- A character that stands for itself. -/
  | char (c : Char)
  /-- A placeholder: its field name and its whole spelling. -/
  | placeholder (name spelling : List Char)
  deriving DecidableEq

/-- The text that a part was read from. -/
def Piece.spelling : Piece → List Char
  | .char c => [c]
  | .placeholder _ s => s

/-- Cuts a template into its parts. The number counts how many characters of the
current placeholder are still to be passed over. -/
def piecesFrom : Nat → List Char → List Piece
  | _, [] => []
  | n + 1, _ :: cs => piecesFrom n cs
  | 0, c :: cs =>
    match readPlaceholder? (c :: cs) with
    | some (name, spelling) =>
      .placeholder name spelling :: piecesFrom (spelling.length - 1) cs
    | none => .char c :: piecesFrom 0 cs

/-- The parts of a template. -/
def pieces (cs : List Char) : List Piece := piecesFrom 0 cs

end ReleasePipeline.Template
