/-
A place in a YAML stream, and the characters that matter to YAML.

There are five line breaks. Three of them, and the pair of the first two, mean a
line feed inside a scalar; the other two keep their identity.
-/

set_option autoImplicit false

namespace ReleasePipeline.Yaml

/-! ## Characters -/

/-- A character that a YAML stream may hold: no control but the tab, the line ends and
the next-line character, no surrogate, and neither of the last two code points of the
basic plane. -/
def isAllowed (c : Char) : Bool :=
  let n := c.toNat
  n == 0x09 || n == 0x0A || n == 0x0D || (0x20 ≤ n && n ≤ 0x7E) || n == 0x85
    || (0xA0 ≤ n && n ≤ 0xFFFD) || 0x10000 ≤ n

/-- The mark that tells the byte order of a stream. -/
def byteOrderMark : Char := '\uFEFF'

/-- A space or a tab. -/
def isGap (c : Char) : Bool := c == ' ' || c == '\t'

/-- A line break. -/
def isBreak (c : Char) : Bool :=
  c == '\r' || c == '\n' || c == '\u0085' || c == '\u2028' || c == '\u2029'

/-- A character of names: an ASCII letter or digit, a hyphen or an underscore. -/
def isWordChar (c : Char) : Bool := c.isAlphanum || c == '_' || c == '-'

/-- The text ends here, or a space, tab or line break follows. -/
def endsWord : List Char → Bool
  | [] => true
  | c :: _ => isGap c || isBreak c

/-- The line ends here. -/
def endsLine : List Char → Bool
  | [] => true
  | c :: _ => isBreak c

/-- Three times the same mark, as a word of its own. -/
def isMarker (mark : Char) : List Char → Bool
  | a :: b :: c :: rest => a == mark && b == mark && c == mark && endsWord rest
  | _ => false

/-- A document marker, which no scalar may run across. -/
def isDocumentMarker (cs : List Char) : Bool := isMarker '-' cs || isMarker '.' cs

/-- What a line break means inside a scalar. -/
def breakText (c : Char) : Char :=
  if c == '\u2028' || c == '\u2029' then c else '\n'

/-! ## Places -/

/-- The number of bytes that characters take. -/
def byteCount (cs : List Char) : Nat := cs.foldl (fun n c => n + c.utf8Size) 0

/-- What is still to be read, and where in the stream it begins: how many bytes, lines, and
characters of its line stand before it. -/
structure Cursor where
  rest : List Char
  index : Nat := 0
  line : Nat := 0
  column : Nat := 0

namespace Cursor

/-- Passes over `n` characters of one line. -/
def skip (c : Cursor) (n : Nat) : Cursor :=
  { c with
    rest := c.rest.drop n
    index := c.index + byteCount (c.rest.take n)
    column := c.column + n }

/-- Passes over the characters that satisfy `p`, none of which is a line break. -/
def skipWhile (c : Cursor) (p : Char → Bool) : Cursor := c.skip (c.rest.takeWhile p).length

/-- Passes over a line break, if there is one, and tells what it means in a scalar. -/
def skipBreak (c : Cursor) : Cursor × List Char :=
  match c.rest with
  | '\r' :: '\n' :: rest =>
    ({ rest, index := c.index + 2, line := c.line + 1, column := 0 }, ['\n'])
  | b :: rest =>
    if isBreak b then
      ({ rest, index := c.index + b.utf8Size, line := c.line + 1, column := 0 }, [breakText b])
    else (c, [])
  | [] => (c, [])

/-- Passes over a comment, up to the end of its line. -/
def skipComment (c : Cursor) : Cursor :=
  match c.rest with
  | '#' :: _ => c.skipWhile fun ch => !isBreak ch
  | _ => c

/-- Passes over what may stand between the last word of a line and its end: blanks, a
comment and the line break. Anything else is refused. -/
def finishLine? (c : Cursor) : Option Cursor :=
  let c := (c.skipWhile isGap).skipComment
  if endsLine c.rest then some c.skipBreak.1 else none

end Cursor

end ReleasePipeline.Yaml
