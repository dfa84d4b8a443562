/-
Reading scalars: plain, quoted, and block scalars.

Where a plain or quoted scalar goes over a line end, the blanks around the line end
vanish; a single line break becomes a space, and of several all but the first stay.
A block scalar keeps its lines, less their indentation, or folds them in the same
way except next to lines that begin with a blank.
-/
import ReleasePipeline.Text.Hexadecimal
import ReleasePipeline.Yaml.Token.Cursor

set_option autoImplicit false

namespace ReleasePipeline.Yaml

/-! ## Gaps inside a scalar -/

/-- The blanks and line breaks between two pieces of a scalar. -/
structure Gap where
  /-- Blanks before the first line break. -/
  spaces : List Char := []
  /-- Whether there is a line break at all. -/
  broken : Bool := false
  /-- The first line break, empty if it was escaped. -/
  first : List Char := []
  /-- The line breaks after the first. -/
  more : List Char := []

/-- What a gap contributes to the scalar. -/
def Gap.text (g : Gap) : List Char :=
  if g.broken then
    if g.first = ['\n'] then (if g.more.isEmpty then [' '] else g.more)
    else g.first ++ g.more
  else g.spaces

/-- Adds a line break that means `c`; the first one swallows the blanks before it. -/
def Gap.addBreak (g : Gap) (c : Char) : Gap :=
  if g.broken then { g with more := g.more ++ [c] }
  else { g with spaces := [], broken := true, first := [c] }

/-- Reads blanks and line breaks. After a line break, a tab left of column `tabLimit`
is refused. -/
def readGap? (tabLimit : Nat) : List Char → Cursor → Gap → Option (Cursor × Gap)
  | '\r' :: '\n' :: rest, place, g =>
    readGap? tabLimit rest
      { rest, index := place.index + 2, line := place.line + 1, column := 0 } (g.addBreak '\n')
  | c :: rest, place, g =>
    if isGap c then
      if !g.broken then readGap? tabLimit rest (place.skip 1) { g with spaces := g.spaces ++ [c] }
      else if c == '\t' && place.column < tabLimit then none
      else readGap? tabLimit rest (place.skip 1) g
    else if isBreak c then
      readGap? tabLimit rest
        { rest, index := place.index + c.utf8Size, line := place.line + 1, column := 0 }
        (g.addBreak (breakText c))
    else some (place, g)
  | [], place, g => some (place, g)

/-! ## Plain scalars -/

/-- A character that ends a plain scalar inside flow brackets. -/
def isFlowMark (c : Char) : Bool := c == ',' || c == '[' || c == ']' || c == '{' || c == '}'

/-- The next character is a flow mark or a question mark. -/
def startsFlowMark : List Char → Bool
  | [] => false
  | c :: _ => isFlowMark c || c == '?'

/-- Reads a piece of a plain scalar without blanks. A colon at the end of a word ends
the scalar, and so does a flow mark inside flow brackets, where a colon next to a
flow mark is refused. -/
def plainPiece? (flow : Bool) : List Char → Option (List Char)
  | [] => some []
  | c :: rest =>
    if isGap c || isBreak c then some []
    else if c == ':' && flow && startsFlowMark rest then none
    else if c == ':' && endsWord rest then some []
    else if flow && isFlowMark c then some []
    else (plainPiece? flow rest).map (c :: ·)

/-- A blank or a line break comes next. -/
def startsGap : List Char → Bool
  | [] => false
  | c :: _ => isGap c || isBreak c

/-- Reads a plain scalar: its text, the place behind it, and whether line breaks were
passed over at its end. Outside flow brackets the scalar ends where the indentation
drops below `indent`. -/
def readPlain? (flow : Bool) (indent : Nat) :
    Nat → Cursor → Gap → Option (List Char × Cursor × Bool)
  | 0, _, _ => none
  | budget + 1, place, gap =>
    if (place.column == 0 && isDocumentMarker place.rest) || place.rest.head? == some '#' then
      some ([], place, gap.broken)
    else
      match plainPiece? flow place.rest with
      | none => none
      | some piece =>
        let place := place.skip piece.length
        -- the gap belongs to the scalar only if something follows it
        let text := if piece.isEmpty then [] else gap.text ++ piece
        let gap := if piece.isEmpty then gap else {}
        if !startsGap place.rest then some (text, place, gap.broken)
        else
          match readGap? indent place.rest place gap with
          | none => none
          | some (place, gap) =>
            -- the next line is outside the block
            if !flow && place.column < indent then some (text, place, gap.broken)
            else
              (readPlain? flow indent budget place gap).map fun (more, place, broken) =>
                (text ++ more, place, broken)

/-! ## Quoted scalars -/

/-- The code point that hexadecimal digits spell. -/
def hexChar? (digits : List Char) : Option Char := do
  let n ← Text.hexNumber? digits
  if (0xD800 ≤ n ∧ n ≤ 0xDFFF) ∨ n > 0x10FFFF then none else some (Char.ofNat n)

/-- The character that `count` hexadecimal digits at the front spell. -/
def hexEscape? (count : Nat) (cs : List Char) : Option Char :=
  if cs.length < count then none else hexChar? (cs.take count)

/-- Reads what follows a backslash: the character meant and the number of characters
that spell it. -/
def escape? : List Char → Option (Char × Nat)
  | [] => none
  | e :: rest =>
    match e with
    | '0' => some ('\x00', 1)
    | 'a' => some ('\x07', 1)
    | 'b' => some ('\x08', 1)
    | 't' => some ('\t', 1)
    | '\t' => some ('\t', 1)
    | 'n' => some ('\n', 1)
    | 'v' => some ('\x0b', 1)
    | 'f' => some ('\x0c', 1)
    | 'r' => some ('\r', 1)
    | 'e' => some ('\x1b', 1)
    | ' ' => some (' ', 1)
    | '"' => some ('"', 1)
    | '/' => some ('/', 1)
    | '\\' => some ('\\', 1)
    | 'N' => some ('\u0085', 1)
    | '_' => some ('\u00A0', 1)
    | 'L' => some ('\u2028', 1)
    | 'P' => some ('\u2029', 1)
    | 'x' => (hexEscape? 2 rest).map fun c => (c, 3)
    | 'u' => (hexEscape? 4 rest).map fun c => (c, 5)
    | 'U' => (hexEscape? 8 rest).map fun c => (c, 9)
    | _ => none

/-- A piece of a quoted scalar without blanks. -/
structure QuotedPiece where
  text : List Char := []
  /-- How many characters spell it. -/
  length : Nat := 0
  /-- It ends at a backslash before a line break. -/
  escapedBreak : Bool := false

/-- One more character in front. -/
def QuotedPiece.cons (c : Char) (p : QuotedPiece) : QuotedPiece :=
  { p with text := c :: p.text, length := p.length + 1 }

/-- One more character passed over in front. -/
def QuotedPiece.pass (p : QuotedPiece) : QuotedPiece := { p with length := p.length + 1 }

/-- Reads a piece of a scalar in single quotes; a doubled quote means one. -/
def singlePiece : List Char → QuotedPiece
  | '\'' :: '\'' :: rest => (QuotedPiece.cons '\'' (singlePiece rest)).pass
  | c :: rest =>
    if isGap c || isBreak c || c == '\'' then {} else QuotedPiece.cons c (singlePiece rest)
  | [] => {}

/-- Reads a piece of a scalar in double quotes. The number counts how many characters
of the current escape are still to be passed over. -/
def doublePiece? : Nat → List Char → Option QuotedPiece
  | _, [] => some {}
  | n + 1, _ :: rest => (doublePiece? n rest).map .pass
  | 0, c :: rest =>
    if isGap c || isBreak c || c == '"' then some {}
    else if c == '\\' then
      if (rest.head?.map isBreak).getD false then some { escapedBreak := true }
      else
        match escape? rest with
        | none => none
        | some (meant, count) => (doublePiece? count rest).map (.cons meant)
    else (doublePiece? 0 rest).map (.cons c)

/-- Reads a quoted scalar behind its opening quote: its text and the place behind the
closing quote. -/
def readQuoted? (quote : Char) : Nat → Cursor → Option (List Char × Cursor)
  | 0, _ => none
  | budget + 1, place =>
    -- the quote is never closed
    if place.rest.isEmpty || (place.column == 0 && isDocumentMarker place.rest) then none
    else
      match
        (if quote == '\'' then some (singlePiece place.rest) else doublePiece? 0 place.rest) with
      | none => none
      | some piece =>
        let place := place.skip piece.length
        -- a line break behind a backslash joins the lines without a blank
        let place := if piece.escapedBreak then (place.skip 1).skipBreak.1 else place
        if place.rest.head? == some quote then some (piece.text, place.skip 1)
        else
          match readGap? 0 place.rest place { broken := piece.escapedBreak } with
          | none => none
          | some (place, gap) =>
            (readQuoted? quote budget place).map fun (more, place) =>
              (piece.text ++ gap.text ++ more, place)

/-! ## Block scalars -/

/-- What happens to the line breaks at the end of a block scalar. -/
inductive Chomping where
  | strip
  | clip
  | keep

/-- Reads the indentation of a line and the empty lines before it. The indentation ends
at column `limit`, if it is known; else at the first character that is no space. The
result holds the place, the line breaks, and the largest indentation seen. -/
def readBreaks? (limit : Option Nat) :
    List Char → Cursor → Nat → List Char → Option (Cursor × List Char × Nat)
  | '\r' :: '\n' :: rest, place, widest, breaks =>
    readBreaks? limit rest
      { rest, index := place.index + 2, line := place.line + 1, column := 0 }
      (max widest place.column) (breaks ++ ['\n'])
  | c :: rest, place, widest, breaks =>
    let inside := (limit.map fun n => decide (place.column < n)).getD true
    if inside && c == ' ' then readBreaks? limit rest (place.skip 1) widest breaks
    else if inside && c == '\t' then none
    else if isBreak c then
      readBreaks? limit rest
        { rest, index := place.index + c.utf8Size, line := place.line + 1, column := 0 }
        (max widest place.column) (breaks ++ [breakText c])
    else some (place, breaks, max widest place.column)
  | [], place, widest, breaks => some (place, breaks, max widest place.column)

/-- What lies between the lines of a block scalar read so far and the next one. -/
structure BlockGap where
  /-- The break of the line before. -/
  first : List Char := []
  /-- The empty lines after it. -/
  more : List Char := []
  /-- The line before began with a blank. -/
  afterBlank : Bool := false

/-- What the gap contributes, before a line that begins with a blank or not. -/
def BlockGap.text (g : BlockGap) (literal beforeBlank : Bool) : List Char :=
  if !literal && g.first == ['\n'] && !g.afterBlank && !beforeBlank then
    if g.more.isEmpty then [' '] else g.more
  else g.first ++ g.more

/-- Reads the lines of a block scalar that are indented to column `indent`. -/
def readBlockLines? (literal : Bool) (indent : Nat) :
    Nat → Cursor → BlockGap → Option (List Char × Cursor × BlockGap)
  | 0, _, _ => none
  | budget + 1, place, gap =>
    match place.rest with
    | [] => some ([], place, gap)
    | c :: _ =>
      -- a line that is indented less ends the scalar
      if place.column != indent then some ([], place, gap)
      else
        let line := place.rest.takeWhile fun c => !isBreak c
        let (next, first) := (place.skip line.length).skipBreak
        match readBreaks? (some indent) next.rest next 0 [] with
        | none => none
        | some (next, more, _) =>
          (readBlockLines? literal indent budget next
              { first, more, afterBlank := isGap c }).map fun (text, place, last) =>
            (gap.text literal (isGap c) ++ line ++ text, place, last)

/-- The header of a block scalar: what happens at its end and how far it is indented
beyond its parent, if it says so. -/
def readBlockHeader? (place : Cursor) : Option (Chomping × Option Nat × Cursor) :=
  match place.rest with
  | '+' :: rest => increment .keep (place.skip 1) rest
  | '-' :: rest => increment .strip (place.skip 1) rest
  | c :: rest =>
    if c.isDigit then
      if c == '0' then none
      else
        let n := some (c.toNat - 48)
        match rest with
        | '+' :: _ => some (.keep, n, place.skip 2)
        | '-' :: _ => some (.strip, n, place.skip 2)
        | _ => some (.clip, n, place.skip 1)
    else some (.clip, none, place)
  | [] => some (.clip, none, place)
where
  /-- Reads an indentation after the sign. -/
  increment (chomping : Chomping) (place : Cursor) :
      List Char → Option (Chomping × Option Nat × Cursor)
    | c :: _ =>
      if c.isDigit then
        if c == '0' then none else some (chomping, some (c.toNat - 48), place.skip 1)
      else some (chomping, none, place)
    | [] => some (chomping, none, place)

/-- Reads a block scalar behind its mark; `parent` is the indentation of the block it
stands in, if it stands in one. -/
def readBlock? (literal : Bool) (parent : Option Nat) (budget : Nat) (place : Cursor) :
    Option (List Char × Cursor) := do
  let (chomping, increment, place) ← readBlockHeader? place
  let place ← place.finishLine?
  let known := increment.map (parent.getD 0 + ·)
  let (place, breaks, widest) ← readBreaks? known place.rest place 0 []
  -- without a header that says so, the first line that is not empty sets the indentation;
  -- it is beyond that of the parent in any case
  let indent := known.getD (max (max widest (parent.map (· + 1) |>.getD 0)) 1)
  let (text, place, last) ←
    readBlockLines? literal indent budget place { more := breaks }
  let ending := match chomping with
    | .strip => []
    | .clip => last.first
    | .keep => last.first ++ last.more
  some (text ++ ending, place)

end ReleasePipeline.Yaml
