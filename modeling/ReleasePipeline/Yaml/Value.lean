/-
The values that a YAML document can hold.

A mapping keeps the order of its entries and may have keys of any kind; a tag that the
document sets itself stays with its value.
-/
import ReleasePipeline.Number.Binary64

set_option autoImplicit false

namespace ReleasePipeline.Yaml

/-- A value. -/
inductive Value where
  | null
  | bool (b : Bool)
  | int (n : Int)
  | float (x : Binary64)
  | text (s : String)
  | list (items : List Value)
  | map (entries : List (Value × Value))
  /-- A value with a tag; an exclamation mark in front of the tag's name does not
  count. -/
  | tagged (tag : String) (value : Value)
  deriving Inhabited

/-- The entries of a mapping. -/
abbrev Entries := List (Value × Value)

/-- The name of a tag: without one exclamation mark in front of anything else. -/
def tagName (tag : String) : String :=
  match tag.toList with
  | '!' :: c :: rest => String.ofList (c :: rest)
  | _ => tag

namespace Value

/-- The value behind all tags. -/
def untagged : Value → Value
  | .tagged _ v => v.untagged
  | v => v

/-- The text of a value that is a text, whatever its tags. -/
def asText? (v : Value) : Option String :=
  match v.untagged with
  | .text s => some s
  | _ => none

/-! ## Sameness -/

mutual
/-- Two values are the same. Mappings are compared without regard to order, and a number
with a point is never the same as one without. -/
def same : Value → Value → Bool
  | .null, .null => true
  | .bool a, .bool b => a == b
  | .int a, .int b => a == b
  | .float a, .float b => a.same b
  | .text a, .text b => a == b
  | .list a, .list b => sameItems a b
  | .map a, .map b => a.length == b.length && sameEntries a b
  | .tagged s a, .tagged t b => tagName s == tagName t && same a b
  | _, _ => false

/-- Two lists are the same, item by item. -/
def sameItems : List Value → List Value → Bool
  | [], [] => true
  | a :: as, b :: bs => same a b && sameItems as bs
  | _, _ => false

/-- Every entry of the first mapping is in the second. -/
def sameEntries : List (Value × Value) → List (Value × Value) → Bool
  | [], _ => true
  | (k, v) :: rest, other =>
    other.any (fun entry => same k entry.1 && same v entry.2) && sameEntries rest other
end

end Value

namespace Entries

/-- The value of a key. -/
def find? (entries : Entries) (key : Value) : Option Value :=
  (List.find? (fun entry => key.same entry.1) entries).map Prod.snd

/-- The value of a key that is a plain text. -/
def findText? (entries : Entries) (key : String) : Option Value := entries.find? (.text key)

/-- Sets the value of a key: in its place if it is there, else at the end. -/
def insert (entries : Entries) (key value : Value) : Entries :=
  match entries with
  | [] => [(key, value)]
  | (k, v) :: rest =>
    if key.same k then (k, value) :: rest else (k, v) :: Entries.insert rest key value

end Entries

end ReleasePipeline.Yaml
