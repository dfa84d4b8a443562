/-
JSON values and the two ways of writing them: on one line without any blank, and
spread over lines with two spaces of indentation.

A number keeps the spelling it was read with, so nothing is lost between reading
and writing; members of an object keep their order.
-/
import ReleasePipeline.Text.Quoted

set_option autoImplicit false

namespace ReleasePipeline

/-- A JSON value. -/
inductive Json where
  | null
  | bool (b : Bool)
  /-- A number by its spelling. -/
  | number (spelling : String)
  | string (s : String)
  | array (items : List Json)
  | object (members : List (String × Json))
  deriving Inhabited

namespace Json

/-! ## Strings -/

/-- The lower-case hexadecimal digit of a number below sixteen. -/
def hexDigit (n : Nat) : Char := Nat.digitChar n

/-- How a character is written inside a string: the quote, the backslash and the
controls are escaped, everything else stands for itself. -/
def stringChar (c : Char) : List Char :=
  match c with
  | '"' => ['\\', '"']
  | '\\' => ['\\', '\\']
  | '\n' => ['\\', 'n']
  | '\r' => ['\\', 'r']
  | '\t' => ['\\', 't']
  | '\x08' => ['\\', 'b']
  | '\x0c' => ['\\', 'f']
  | c =>
    if c.toNat < 32 then
      ['\\', 'u', '0', '0', hexDigit (c.toNat / 16), hexDigit (c.toNat % 16)]
    else [c]

/-- A string between quotes. -/
def writeString (s : String) : String :=
  String.ofList ('"' :: (s.toList.flatMap stringChar ++ ['"']))

/-! ## On one line -/

mutual
/-- The value without any blank. -/
def compact : Json → String
  | .null => "null"
  | .bool b => if b then "true" else "false"
  | .number spelling => spelling
  | .string s => writeString s
  | .array items => "[" ++ ",".intercalate (compactItems items) ++ "]"
  | .object members => Text.braced (",".intercalate (compactMembers members))

/-- The items of an array, each without any blank. -/
def compactItems : List Json → List String
  | [] => []
  | item :: rest => item.compact :: compactItems rest

/-- The members of an object, each without any blank. -/
def compactMembers : List (String × Json) → List String
  | [] => []
  | (name, value) :: rest => (writeString name ++ ":" ++ value.compact) :: compactMembers rest
end

/-! ## Over several lines -/

/-- Two spaces for each level. -/
def indentation (level : Nat) : String := String.ofList (List.replicate (2 * level) ' ')

/-- Lines between brackets, each indented by one level more than the brackets; an
empty list stays on one line. -/
def block (level : Nat) (opening closing : String) (lines : List String) : String :=
  if lines.isEmpty then opening ++ closing
  else
    opening ++ "\n"
      ++ ",\n".intercalate (lines.map fun line => indentation (level + 1) ++ line)
      ++ "\n" ++ indentation level ++ closing

mutual
/-- The value over several lines; `level` is the indentation of its first line. -/
def pretty (level : Nat) : Json → String
  | .array items => block level "[" "]" (prettyItems (level + 1) items)
  | .object members =>
    block level (.singleton '{') (.singleton '}') (prettyMembers (level + 1) members)
  | .null => "null"
  | .bool b => if b then "true" else "false"
  | .number spelling => spelling
  | .string s => writeString s

/-- The items of an array, each over several lines. -/
def prettyItems (level : Nat) : List Json → List String
  | [] => []
  | item :: rest => item.pretty level :: prettyItems level rest

/-- The members of an object, each over several lines. -/
def prettyMembers (level : Nat) : List (String × Json) → List String
  | [] => []
  | (name, value) :: rest =>
    (writeString name ++ ": " ++ value.pretty level) :: prettyMembers level rest
end

/-! ## Parts -/

/-- A whole number. -/
def ofNat (n : Nat) : Json := .number (toString n)

/-- The value of the last member of that name: of members with one name, readers of an object
without fixed fields keep the last. -/
def member? (name : String) : Json → Option Json
  | .object members => members.reverse.lookup name
  | _ => none

/-- The text of a string. -/
def asString? : Json → Option String
  | .string s => some s
  | _ => none

end Json

end ReleasePipeline
