/-
Patterns for the names of files.

A pattern is a path some steps of which hold wildcards: a question mark for one character, a star
for any number of them, brackets for one character of a set, and two stars as a whole step for any
number of directories. The whole pattern has to be well formed, and so has each of its steps: a
bracket cannot reach across a slash.

What fits a pattern is found step by step. A step without wildcards is looked up, so that nothing
has to be listed for it, and any other is held against all names of a directory, in ascending order.
A file is found as often as there are ways to it, and what several patterns find is not compared.
-/
import ReleasePipeline.Files
import ReleasePipeline.Sorted
import ReleasePipeline.Text.Occurrence

set_option autoImplicit false

namespace ReleasePipeline

/-- What is wrong with a pattern. -/
inductive PatternFault where
  /-- Three stars or more. -/
  | tooManyStars
  /-- Two stars that are not a whole step. -/
  | partialTree
  /-- A bracket without an end. -/
  | openBracket
  deriving DecidableEq, Repr

/-- The wording of the fault. -/
def PatternFault.message : PatternFault → String
  | .tooManyStars => "wildcards are either regular `*` or recursive `**`"
  | .partialTree => "recursive wildcards must form a single path component"
  | .openBracket => "invalid range pattern"

/-- A fault and the place where it was seen, counted in characters. -/
structure PatternError where
  position : Nat
  fault : PatternFault
  deriving DecidableEq, Repr

/-- The wording of the error. -/
def PatternError.message (e : PatternError) : String :=
  "Pattern syntax error near position " ++ toString e.position ++ ": " ++ e.fault.message

namespace Pattern

/-! ## Reading -/

/-- A range of characters; both ends belong to it. -/
structure CharRange where
  first : Char
  last : Char
  deriving DecidableEq, Repr

/-- The character is in the range. -/
def CharRange.contains (r : CharRange) (c : Char) : Bool := r.first ≤ c && c ≤ r.last

/-- An element of a pattern. -/
inductive Token where
  | char (c : Char)
  | anyChar
  | anyText
  /-- Any number of directories. -/
  | anyTree
  | oneOf (ranges : List CharRange)
  | noneOf (ranges : List CharRange)
  deriving DecidableEq, Repr

/-- The ranges between brackets. -/
def charRanges : List Char → List CharRange
  | a :: '-' :: b :: rest => ⟨a, b⟩ :: charRanges rest
  | a :: rest => ⟨a, a⟩ :: charRanges rest
  | [] => []

/-- A set in brackets. -/
structure Bracket where
  token : Token
  /-- The number of characters from bracket to bracket. -/
  length : Nat
  rest : List Char

/-- Reads what follows an opening bracket. The first character inside, after the mark that
turns the set around, is never the closing bracket. -/
def bracket? : List Char → Option Bracket
  | '!' :: c :: rest =>
    (Text.splitOnce? ']' rest).map fun (inside, rest) =>
      ⟨.noneOf (charRanges (c :: inside)), inside.length + 4, rest⟩
  | ['!'] => none
  | c :: rest =>
    (Text.splitOnce? ']' rest).map fun (inside, rest) =>
      ⟨.oneOf (charRanges (c :: inside)), inside.length + 3, rest⟩
  | [] => none

/-- A bracket takes at least the bracket that closes it. -/
theorem length_lt_of_bracket? {cs : List Char} {b : Bracket} (h : bracket? cs = some b) :
    b.rest.length < cs.length := by
  unfold bracket? at h
  split at h
  · obtain ⟨⟨inside, rest⟩, hs, e⟩ := Option.map_eq_some_iff.mp h
    cases e
    have := Text.length_lt_of_splitOnce? hs
    simp only [List.length_cons]
    omega
  · simp at h
  · obtain ⟨⟨inside, rest⟩, hs, e⟩ := Option.map_eq_some_iff.mp h
    cases e
    have := Text.length_lt_of_splitOnce? hs
    simp only [List.length_cons]
    omega
  · simp at h

/-- Reads a pattern from a place in it on; `previous` is the character before that place. -/
def tokensFrom (position : Nat) (previous : Option Char) (cs : List Char) :
    Except PatternError (List Token) :=
  match cs with
  | [] => .ok []
  | '?' :: rest => (tokensFrom (position + 1) (some '?') rest).map (.anyChar :: ·)
  | '*' :: '*' :: '*' :: _ => .error ⟨position + 2, .tooManyStars⟩
  | '*' :: '*' :: rest =>
    if previous = none ∨ previous = some '/' then
      match rest with
      | [] => .ok [.anyTree]
      | '/' :: rest => (tokensFrom (position + 3) (some '/') rest).map (.anyTree :: ·)
      | _ => .error ⟨position + 2, .partialTree⟩
    else .error ⟨position - 1, .partialTree⟩
  | '*' :: rest => (tokensFrom (position + 1) (some '*') rest).map (.anyText :: ·)
  | '[' :: rest =>
    match h : bracket? rest with
    | some b =>
      have := length_lt_of_bracket? h
      (tokensFrom (position + b.length) (some ']') b.rest).map (b.token :: ·)
    | none => .error ⟨position, .openBracket⟩
  | c :: rest => (tokensFrom (position + 1) (some c) rest).map (.char c :: ·)
termination_by cs.length
decreasing_by all_goals simp_all only [List.length_cons]; omega

/-- Reads a pattern. -/
def tokens (cs : List Char) : Except PatternError (List Token) := tokensFrom 0 none cs

/-! ## Matching names

Trying every way to share a name among several stars takes too long. So the tokens are gone
through from the last one to the first, with a row that tells of each end of the name whether
the tokens so far match it. -/

/-- What a token for one character asks of it; the tokens for any text ask nothing. -/
def Token.test? : Token → Option (Char → Bool)
  | .char c => some fun d => c == d
  | .anyChar => some fun _ => true
  | .oneOf ranges => some fun d => ranges.any (·.contains d)
  | .noneOf ranges => some fun d => !ranges.any (·.contains d)
  | .anyText | .anyTree => none

/-- The ends of a text, from the whole text down to nothing. -/
def ends : List Char → List (List Char)
  | [] => [[]]
  | c :: cs => (c :: cs) :: ends cs

/-- The row before a token for one character. -/
def rowBeforeOne (test : Char → Bool) : List Char → List Bool → List Bool
  | c :: cs, _ :: b :: row => (test c && b) :: rowBeforeOne test cs (b :: row)
  | _, _ => [false]

/-- The row before a token for any text. -/
def rowBeforeAny : List Bool → List Bool
  | [] => []
  | b :: row =>
    match rowBeforeAny row with
    | [] => [b]
    | a :: row => (b || a) :: a :: row

/-- What the tokens say of each end of a text. -/
def matchRow (cs : List Char) : List Token → List Bool
  | [] => (ends cs).map List.isEmpty
  | t :: rest =>
    match t.test? with
    | some test => rowBeforeOne test cs (matchRow cs rest)
    | none => rowBeforeAny (matchRow cs rest)

/-- The tokens match the whole text; found in one sweep. -/
def sweep (tokens : List Token) (cs : List Char) : Bool := (matchRow cs tokens).headD false

end Pattern

/-! ## Steps -/

/-- One step of a pattern. -/
inductive PatternStep where
  /-- Any number of directories. -/
  | anyTree
  /-- A name that fits. -/
  | name (tokens : List Pattern.Token)
  deriving DecidableEq, Repr

namespace PatternStep

/-- The only name that fits, if there are no wildcards. -/
def literal? : PatternStep → Option (List Char)
  | .anyTree => none
  | .name tokens => tokens.mapM fun
    | .char c => some c
    | _ => none

/-- A name fits the step. -/
def fits (s : PatternStep) (name : String) : Bool :=
  match s with
  | .anyTree => true
  | .name tokens => Pattern.sweep tokens name.toList

/-- Whether the step may stand for the directory itself or the one above: it has to begin with
a dot of its own. -/
def admitsDots : PatternStep → Bool
  | .name (.char '.' :: _) => true
  | _ => false

/-- The step that tokens make. -/
def ofTokens : List Pattern.Token → PatternStep
  | [.anyTree] => .anyTree
  | tokens => .name tokens

end PatternStep

/-- A pattern: where it starts, and its steps. -/
structure Pattern where
  /-- It starts at the root. -/
  isAbsolute : Bool
  steps : List PatternStep
  /-- It ends in a slash and so stands for directories only. -/
  directoriesOnly : Bool
  deriving DecidableEq, Repr

namespace Pattern

/-- The spellings between the slashes; nothing follows a slash at the end. -/
def spellings (cs : List Char) : List (List Char) :=
  let parts := Text.splitOn '/' cs
  if parts.getLast? = some [] then parts.dropLast else parts

/-- Two neighbouring steps for any number of directories are one. -/
def mergeTrees : List PatternStep → List PatternStep
  | .anyTree :: .anyTree :: rest => mergeTrees (.anyTree :: rest)
  | s :: rest => s :: mergeTrees rest
  | [] => []

/-- Reads a pattern. -/
def parse (text : String) : Except PatternError Pattern := do
  let _ ← tokens text.toList
  let isAbsolute := text.toList.head? == some '/'
  let below := if isAbsolute then text.toList.drop 1 else text.toList
  let steps ← (spellings below).mapM fun spelling => PatternStep.ofTokens <$> tokens spelling
  return {
    isAbsolute
    steps := if below.isEmpty then [.name []] else mergeTrees steps
    directoriesOnly := text.toList.getLast? == some '/' }

end Pattern

/-! ## The files that fit -/

namespace Files

/-- The names in the directory that a path names, ascending. -/
def namesIn (fs : Files) (p : Path) : List String :=
  match fs.find p with
  | .ok (place, .directory) =>
    (KeySet.ofMembers ((fs.children place).map Prod.fst)).keys
  | _ => []

/-- A name inside a directory; the working directory is not named. -/
def inside (p : Path) (name : String) : Path :=
  if p.parts = [.here] then ⟨name⟩ else p.child name

/-- Everything below a directory, each directory before what is in it. -/
def below (fs : Files) : Nat → Path → List (Path × String)
  | 0, _ => []
  | depth + 1, p =>
    (fs.namesIn p).flatMap fun name =>
      (inside p name, name) :: fs.below depth (inside p name)

/-- What fits the steps, seen from a path. -/
def expand (fs : Files) : List PatternStep → Path → List Path
  | [], p => [p]
  | .anyTree :: rest, p =>
    (fs.below fs.nodes.length p).flatMap fun (q, name) =>
      -- at the end of a pattern the directories themselves are what fits
      match rest with
      | [] => if fs.isDirectory q then [q] else []
      | step :: rest => if step.fits name then fs.expand rest q else []
  | step :: rest, p =>
    match step.literal? with
    -- a name without wildcards is looked up; nothing is listed
    | some name =>
      let q := inside p (String.ofList name)
      let there := if name = ['.'] ∨ name = ['.', '.'] then fs.isDirectory p else fs.exists? q
      if there then fs.expand rest q else []
    | none =>
      let dots := if step.admitsDots && fs.isDirectory p then ["..", "."].filter step.fits else []
      dots.flatMap (fun dot => fs.expand rest (p.child dot))
        ++ (fs.namesIn p).flatMap fun name =>
          if step.fits name then fs.expand rest (inside p name) else []

/-- What fits a pattern, in order. -/
def glob (fs : Files) (p : Pattern) : List Path :=
  let found := fs.expand p.steps (if p.isAbsolute then ⟨"/"⟩ else ⟨"."⟩)
  if p.directoriesOnly then found.filter fs.isDirectory else found

end Files

end ReleasePipeline
