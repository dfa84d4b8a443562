/-
Paths as texts: how two are joined, what their parts are, and what lies above one.

A path keeps the spelling it was given. Only the parts ignore what does not matter:
repeated slashes, a slash at the end, and a single dot anywhere but at the front.
-/
import ReleasePipeline.Text.Occurrence

set_option autoImplicit false

namespace ReleasePipeline

/-- The text of a path. -/
structure Path where
  text : String
  deriving DecidableEq, Inhabited

namespace Path

instance : ToString Path := ⟨text⟩

/-- One step of a path. -/
inductive Part where
  /-- The slash at the front. -/
  | root
  /-- A single dot at the front. -/
  | here
  /-- Two dots. -/
  | up
  | name (text : List Char)
  deriving DecidableEq

/-- The spellings between the slashes. -/
def pieces (p : Path) : List (List Char) := Text.splitOn '/' p.text.toList

/-- The path starts at the root. -/
def isAbsolute (p : Path) : Bool := p.text.toList.head? == some '/'

/-- The path ends in a slash. -/
def endsInSlash (p : Path) : Bool := p.text.toList.getLast? == some '/'

/-- The step that one spelling between slashes stands for, away from the front. -/
def partOf? (piece : List Char) : Option Part :=
  if piece = [] ∨ piece = ['.'] then none
  else if piece = ['.', '.'] then some .up
  else some (.name piece)

/-- The steps of a path. -/
def parts (p : Path) : List Part :=
  match p.pieces with
  | [] => []
  | first :: rest =>
    let later := rest.filterMap partOf?
    if p.isAbsolute then .root :: later
    else if first = ['.'] then .here :: later
    else (partOf? first).toList ++ later

/-- `p` followed by `q`, or `q` alone when it starts at the root. A slash is put
between the two unless `p` is empty or ends in one. -/
def join (p q : Path) : Path :=
  if q.isAbsolute then q
  else if p.text = "" ∨ p.endsInSlash then ⟨p.text ++ q.text⟩
  else ⟨p.text ++ "/" ++ q.text⟩

/-- `p` followed by one more name. -/
def child (p : Path) (name : String) : Path := p.join ⟨name⟩

/-- Spellings at the end that are no step of their own. -/
def dropIdle (piecesFromEnd : List (List Char)) : List (List Char) :=
  piecesFromEnd.dropWhile fun piece => piece = [] ∨ piece = ['.']

/-- The path without its last step, spelled as it was. The root and the empty path
have none. -/
def parent? (p : Path) : Option Path :=
  match p.pieces with
  | [] => none
  | first :: rest =>
    match dropIdle rest.reverse with
    | [] => if first = [] then none else some ⟨""⟩
    | _ :: above =>
      match dropIdle above with
      | [] => some ⟨if p.isAbsolute then "/" else String.ofList first⟩
      | kept =>
        some ⟨String.ofList (['/'].intercalate (first :: kept.reverse))⟩

/-- The last step, if it is a name. -/
def fileName? (p : Path) : Option String :=
  match p.parts.getLast? with
  | some (.name cs) => some (String.ofList cs)
  | _ => none

end Path

end ReleasePipeline
