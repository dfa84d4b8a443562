/-
Cutting a YAML stream into tokens.

One pass from the left with little memory: the place, the indentation of the open
blocks, and for the block context and each open flow bracket the place of the last
word that could still turn out to be a key. When a colon shows that it was one, a
`key` token (and the start of a block mapping, if the indentation grows there) goes
in front of it.
-/
import ReleasePipeline.Yaml.Token.Tag

set_option autoImplicit false

namespace ReleasePipeline.Yaml

/-- A word that may turn out to be a key. -/
structure KeyCandidate where
  /-- It begins where a block mapping has its keys, so it must be one. -/
  required : Bool
  /-- How many tokens stand before it. -/
  position : Nat
  index : Nat
  line : Nat
  column : Nat

/-- How far the stream has been cut. -/
structure Scan where
  place : Cursor
  /-- More than the number of characters that are left: no loop over them takes as many steps. -/
  bound : Nat
  tokens : Array Token := #[]
  /-- The column of the innermost block, `-1` outside any. -/
  indent : Int := -1
  /-- The columns of the blocks around it, innermost first. -/
  outerIndents : List Int := []
  /-- The key candidate of the innermost bracket, or of the block context. -/
  candidate : Option KeyCandidate := none
  /-- The candidates of the contexts around it, innermost first: one for each open
  bracket. -/
  outerCandidates : List (Option KeyCandidate) := []
  /-- Whether a key may begin here. -/
  keyAllowed : Bool := true

namespace Scan

/-- Inside flow brackets. -/
def inFlow (s : Scan) : Bool := !s.outerCandidates.isEmpty

/-- Adds a token at the end. -/
def emit (s : Scan) (t : Token) : Scan := { s with tokens := s.tokens.push t }

/-- Adds a token where `position` tokens stand before it. -/
def insertAt (s : Scan) (position : Nat) (t : Token) : Scan :=
  { s with tokens := s.tokens.insertIdxIfInBounds position t }

/-- Passes over `n` characters. -/
def skip (s : Scan) (n : Nat) : Scan := { s with place := s.place.skip n }

/-! ## Indentation -/

/-- Opens a block at a column beyond the current indentation; `position` tells where its
token goes, when it is not the end. -/
def roll (s : Scan) (column : Nat) (position : Option Nat) (t : Token) : Scan :=
  if s.inFlow || !(s.indent < column) then s
  else
    let s := { s with indent := column, outerIndents := s.indent :: s.outerIndents }
    match position with
    | some p => s.insertAt p t
    | none => s.emit t

/-- Closes the blocks beyond a column, one end for each. -/
def unrollTo (column : Int) (s : Scan) : List Int → Scan
  | [] => s
  | outer :: rest =>
    if column < s.indent then
      unrollTo column { (s.emit .blockEnd) with indent := outer, outerIndents := rest } rest
    else s

/-- Closes the blocks beyond a column, unless inside flow brackets. -/
def unroll (s : Scan) (column : Int) : Scan :=
  if s.inFlow then s else unrollTo column s s.outerIndents

/-! ## Key candidates -/

/-- A candidate that a line end or more than 1024 bytes separate from here is none any more;
a required one must not be lost in this way. -/
def stale? (place : Cursor) : Option KeyCandidate → Option (Option KeyCandidate)
  | none => some none
  | some k =>
    if k.line < place.line || k.index + 1024 < place.index then
      -- a word in the column of the keys has to be one
      if k.required then none else some none
    else some (some k)

/-- Drops the candidates that have become too old. -/
def dropStale? (s : Scan) : Option Scan := do
  let outerCandidates ← s.outerCandidates.mapM (stale? s.place)
  let candidate ← stale? s.place s.candidate
  some { s with candidate, outerCandidates }

/-- Drops the current candidate, which must not be a required one. -/
def dropCandidate? (s : Scan) : Option Scan :=
  match s.candidate with
  | some k => if k.required then none else some { s with candidate := none }
  | none => some s

/-- Notes that the word which begins here may be a key. -/
def saveCandidate? (s : Scan) : Option Scan :=
  if s.keyAllowed then do
    let s ← s.dropCandidate?
    some { s with
      candidate := some {
        required := !s.inFlow && s.indent == (s.place.column : Int)
        position := s.tokens.size
        index := s.place.index
        line := s.place.line
        column := s.place.column } }
  else some s

/-! ## Between words -/

/-- Passes over blanks, comments and line ends. A line may begin with a byte order mark, which
takes up its first column. A tab counts as a blank only where no key may begin. Outside
brackets a key may begin on every new line. -/
def skipToWord : Nat → Scan → Scan
  | 0, s => s
  | budget + 1, s =>
    let place :=
      if s.place.column == 0 && s.place.rest.head? == some byteOrderMark then s.place.skip 1
      else s.place
    -- where a key may begin, a tab would be indentation
    let tabs := s.inFlow || !s.keyAllowed
    let place := (place.skipWhile fun c => c == ' ' || (tabs && c == '\t')).skipComment
    let s := { s with place }
    if (place.rest.head?.map isBreak).getD false then
      skipToWord budget
        { s with place := place.skipBreak.1, keyAllowed := s.keyAllowed || !s.inFlow }
    else s

/-! ## Words -/

/-- A mark that opens a flow collection. -/
def openFlow? (s : Scan) (t : Token) : Option Scan := do
  let s ← s.saveCandidate?
  some <| ({ s with
    outerCandidates := s.candidate :: s.outerCandidates
    candidate := none
    keyAllowed := true }.skip 1).emit t

/-- A mark that closes a flow collection. -/
def closeFlow? (s : Scan) (t : Token) : Option Scan := do
  let s ← s.dropCandidate?
  -- a bracket that closes nothing is noticed when the tokens are put together
  let s := match s.outerCandidates with
    | [] => s
    | outer :: rest => { s with candidate := outer, outerCandidates := rest }
  some (({ s with keyAllowed := false }.skip 1).emit t)

/-- A comma inside a flow collection. -/
def flowEntry? (s : Scan) : Option Scan := do
  let s ← s.dropCandidate?
  some (({ s with keyAllowed := true }.skip 1).emit .flowEntry)

/-- A hyphen in front of an item. -/
def blockEntry? (s : Scan) : Option Scan := do
  if !s.inFlow && !s.keyAllowed then none
  else
    -- inside flow brackets nothing is opened; the token is refused later on
    let s := s.roll s.place.column none .blockSequenceStart
    let s ← s.dropCandidate?
    some (({ s with keyAllowed := true }.skip 1).emit .blockEntry)

/-- A question mark in front of a key. -/
def explicitKey? (s : Scan) : Option Scan := do
  if !s.inFlow && !s.keyAllowed then none
  else
    let s := s.roll s.place.column none .blockMappingStart
    let s ← s.dropCandidate?
    some (({ s with keyAllowed := !s.inFlow }.skip 1).emit .key)

/-- A colon in front of a value. -/
def value? (s : Scan) : Option Scan :=
  match s.candidate with
  | some k =>
    -- the word before the colon was a key: its mark goes in front of it, and in front of
    -- that the start of a mapping, if this is its first key
    let s := s.insertAt k.position .key
    let s := s.roll k.column (some k.position) .blockMappingStart
    some (({ s with candidate := none, keyAllowed := false }.skip 1).emit .value)
  | none =>
    -- no word before the colon: the key is empty, or was marked by a question mark
    if !s.inFlow && !s.keyAllowed then none
    else
      let s := s.roll s.place.column none .blockMappingStart
      some (({ s with keyAllowed := !s.inFlow }.skip 1).emit .value)

/-- Leaves all blocks, before a directive, a document marker or the end. -/
def leaveBlocks? (s : Scan) : Option Scan := do
  let s ← (s.unroll (-1)).dropCandidate?
  some { s with keyAllowed := false }

/-- A directive. -/
def directive? (s : Scan) : Option Scan := do
  let s ← s.leaveBlocks?
  let (token, place) ← readDirective? s.place
  some ({ s with place }.emit token)

/-- A document marker. -/
def marker? (s : Scan) (t : Token) : Option Scan := do
  let s ← s.leaveBlocks?
  some ((s.skip 3).emit t)

/-- An anchor or a reference. -/
def anchor? (s : Scan) (token : String → Token) : Option Scan := do
  let s ← s.saveCandidate?
  let (name, place) ← readAnchor? (s.place.skip 1)
  some ({ s with place, keyAllowed := false }.emit (token name))

/-- A tag. -/
def tag? (s : Scan) : Option Scan := do
  let s ← s.saveCandidate?
  let (handle, suffix, place) ← readTag? s.inFlow s.place
  some ({ s with place, keyAllowed := false }.emit (.tag handle suffix))

/-- A block scalar. -/
def blockScalar? (s : Scan) (literal : Bool) : Option Scan := do
  let s ← s.dropCandidate?
  let parent := if s.indent < 0 then none else some s.indent.toNat
  let (text, place) ← readBlock? literal parent s.bound (s.place.skip 1)
  some ({ s with place, keyAllowed := true }.emit (.scalar text false))

/-- A quoted scalar. -/
def quotedScalar? (s : Scan) (quote : Char) : Option Scan := do
  let s ← s.saveCandidate?
  let (text, place) ← readQuoted? quote s.bound (s.place.skip 1)
  some ({ s with place, keyAllowed := false }.emit (.scalar text false))

/-- A plain scalar. A key may begin behind one that ended at a line end. -/
def plainScalar? (s : Scan) : Option Scan := do
  let s ← s.saveCandidate?
  let (text, place, broken) ←
    readPlain? s.inFlow (s.indent + 1).toNat s.bound s.place {}
  some ({ s with place, keyAllowed := broken }.emit (.scalar text true))

/-- A character that no plain scalar begins with. -/
def isIndicator (c : Char) : Bool := "-?:,[]{}#&*!|>'\"%@`".toList.contains c

/-- The next token, at a character that begins a word. -/
def word? (s : Scan) (c : Char) (after : List Char) : Option Scan :=
  let loose := s.inFlow || endsWord after
  if s.place.column == 0 && c == '%' then s.directive?
  else if s.place.column == 0 && isMarker '-' s.place.rest then s.marker? .documentStart
  else if s.place.column == 0 && isMarker '.' s.place.rest then s.marker? .documentEnd
  else if c == '[' then s.openFlow? .flowSequenceStart
  else if c == '{' then s.openFlow? .flowMappingStart
  else if c == ']' then s.closeFlow? .flowSequenceEnd
  else if c == '}' then s.closeFlow? .flowMappingEnd
  else if c == ',' then s.flowEntry?
  else if c == '-' && endsWord after then s.blockEntry?
  else if c == '?' && loose then s.explicitKey?
  else if c == ':' && loose then s.value?
  else if c == '*' then s.anchor? .reference
  else if c == '&' then s.anchor? .anchor
  else if c == '!' then s.tag?
  else if c == '|' && !s.inFlow then s.blockScalar? true
  else if c == '>' && !s.inFlow then s.blockScalar? false
  else if c == '\'' || c == '"' then s.quotedScalar? c
  else if !(isGap c || isBreak c || isIndicator c) || c == '-'
      || (!s.inFlow && (c == '?' || c == ':')) then s.plainScalar?
  else none

/-- The tokens up to the end of the stream. -/
def run? : Nat → Scan → Option (Array Token)
  | 0, _ => none
  | budget + 1, s =>
    match ((skipToWord s.bound s).dropStale?.map fun s =>
        s.unroll s.place.column) with
    | none => none
    | some s =>
      match s.place.rest with
      | [] => s.leaveBlocks?.map fun s => (s.emit .streamEnd).tokens
      | c :: after => (s.word? c after).bind (run? budget)

end Scan

/-- The tokens of a stream, ending with the end of the stream. -/
def Token.scan? (text : String) : Option (List Token) :=
  let cs := text.toList
  if cs.all isAllowed then
    let bound := cs.length + 1
    (Scan.run? bound { place := { rest := cs }, bound }).map Array.toList
  else none

end ReleasePipeline.Yaml
