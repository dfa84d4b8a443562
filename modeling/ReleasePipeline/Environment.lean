/-
The variables that modules see, in the order of their names.

A text refers to them as `$NAME` or `${NAME}`; a reference to a variable that is
not there is replaced by nothing. Expansion is one pass from the left: what is put
in for a reference is not looked at again.
-/
import ReleasePipeline.Sorted
import ReleasePipeline.Text.Alphanumeric
import ReleasePipeline.Text.Occurrence

set_option autoImplicit false

namespace ReleasePipeline

/-- Variables by name. -/
structure Environment where
  vars : Table String String := .empty
  deriving DecidableEq, Inhabited

namespace Environment

/-! ## Variables -/

/-- No variable. -/
def empty : Environment := {}

/-- Sets a variable. -/
def set (env : Environment) (name value : String) : Environment :=
  ⟨env.vars.insert name value⟩

/-- The value of a variable. -/
def get? (env : Environment) (name : String) : Option String := env.vars.find? name

/-- The value of a variable, or `fallback`. -/
def getD (env : Environment) (name fallback : String) : String := (env.get? name).getD fallback

/-- Whether the variable is there, be it empty. -/
def has (env : Environment) (name : String) : Bool := (env.get? name).isSome

/-- Names and values in ascending order of the names. -/
def toList (env : Environment) : List (String × String) := env.vars.toList

/-- The number of variables. -/
def size (env : Environment) : Nat := env.vars.size

/-- The given variables; a later value of a name replaces an earlier one. -/
def ofList (rows : List (String × String)) : Environment := ⟨Table.ofList rows⟩

/-- Adds variables one after the other, each only if its name is not there yet. -/
def load (env : Environment) (rows : List (String × String)) : Environment :=
  rows.foldl (fun e (name, value) => ⟨e.vars.insertNew name value⟩) env

/-! ## References -/

/-- A character of a variable name without braces. -/
def isNameChar (c : Char) : Bool := Text.isAlphanumeric c || c == '_'

/-- What follows a dollar sign. -/
inductive Reference where
  /-- A name between braces, and how many characters the braces and all between
  them take. -/
  | braced (name : List Char) (length : Nat)
  /-- An opening brace that is never closed. -/
  | unclosed
  /-- A bare name. -/
  | bare (name : List Char)
  /-- A second dollar sign. -/
  | dollar
  /-- Nothing that a dollar sign could refer to. -/
  | lone

/-- The name between braces: all up to `:-`, unless that comes first. -/
def bracedName (inside : List Char) : List Char :=
  match Text.splitFirst? [':', '-'] inside with
  | some (name, _) => if name.isEmpty then inside else name
  | none => inside

/-- Reads what follows a dollar sign. -/
def Reference.read : List Char → Reference
  | '{' :: rest =>
    match Text.splitOnce? '}' rest with
    | some (inside, _) => .braced (bracedName inside) (inside.length + 2)
    | none => .unclosed
  | '$' :: _ => .dollar
  | cs =>
    let name := cs.takeWhile isNameChar
    if name.isEmpty then .lone else .bare name

/-- How many characters after the dollar sign belong to the reference. -/
def Reference.length : Reference → Nat
  | .braced _ n => n
  | .unclosed => 1
  | .bare name => name.length
  | .dollar => 1
  | .lone => 0

/-- What stands for the dollar sign and the characters that belong to it. -/
def Reference.value (env : Environment) : Reference → List Char
  | .braced name _ => (env.getD (String.ofList name) "").toList
  | .unclosed => ['$', '{']
  | .bare name => (env.getD (String.ofList name) "").toList
  | .dollar => ['$']
  | .lone => ['$']

/-- Replaces the references of a text. The number counts how many characters of the
current reference are still to be passed over. -/
def expandFrom (env : Environment) : Nat → List Char → List Char
  | _, [] => []
  | n + 1, _ :: cs => expandFrom env n cs
  | 0, c :: cs =>
    if c = '$' then
      -- what is put in is not looked at again
      (Reference.read cs).value env ++ expandFrom env (Reference.read cs).length cs
    else c :: expandFrom env 0 cs

/-- Replaces every reference by the value of its variable. -/
def expand (env : Environment) (text : String) : String :=
  String.ofList (env.expandFrom 0 text.toList)

end Environment

end ReleasePipeline
