/-
How one setting is written as a YAML value and read from one.

A codec is a pair of functions; the law that ties them, that reading what was written gives the
setting back, is proved for each codec beside it. Reading is generous where writing is not: tags on
plain values do not count, null is an empty list, and a choice may have several names. So the other
law does not hold, and a value that is read and written again need not be what it was.

A schema is made of the codecs of its fields, and that written settings are read back
(`Codec.Lawful` for all of its fields) is a consequence of the laws here.
-/
import ReleasePipeline.Path
import ReleasePipeline.Settings.DecodeError

set_option autoImplicit false

namespace ReleasePipeline

/-- How settings of one type are written and read. -/
structure Codec (α : Type) where
  encode : α → Yaml.Value
  decode : Yaml.Value → Except DecodeError α

namespace Codec

/-- Reading what was written gives the setting back. -/
def Lawful {α : Type} (c : Codec α) : Prop := ∀ a, c.decode (c.encode a) = .ok a

/-! ## Single values -/

/-- A text. -/
def text : Codec String where
  encode := .text
  decode v :=
    match v.asText? with
    | some s => .ok s
    | none => .error (.wrongKind v.describe "a string")

/-- A path. -/
def path : Codec Path where
  encode p := .text p.text
  decode v :=
    match v.asText? with
    | some s => .ok ⟨s⟩
    | none => .error (.wrongKind v.describe "path string")

/-- A truth value. -/
def flag : Codec Bool where
  encode := .bool
  decode v :=
    match v.untagged with
    | .bool b => .ok b
    | _ => .error (.wrongKind v.describe "a boolean")

/-- A whole number of 32 bits without a sign. -/
def word : Codec UInt32 where
  encode n := .int n.toNat
  decode v :=
    match v.untagged with
    | .int n =>
      if 0 ≤ n ∧ n < 4294967296 then .ok (UInt32.ofNat n.toNat)
      else .error (.outOfRange v.describe "u32")
    | _ => .error (.wrongKind v.describe "u32")

/-! ## Lists -/

/-- Reads all items, or stops at the first that cannot be read. -/
def decodeAll {α : Type} (c : Codec α) : List Yaml.Value → Except DecodeError (List α)
  | [] => .ok []
  | v :: rest =>
    match c.decode v with
    | .error e => .error e
    | .ok a =>
      match decodeAll c rest with
      | .error e => .error e
      | .ok as => .ok (a :: as)

/-- A list; null is the empty one. -/
def list {α : Type} (c : Codec α) : Codec (List α) where
  encode as := .list (as.map c.encode)
  decode v :=
    match v.untagged with
    | .null => .ok []
    | .list items => c.decodeAll items
    | _ => .error (.wrongKind v.describe "a sequence")

/-! ## Choices -/

/-- One of several settings with names of their own. -/
structure Choice (α : Type) where
  /-- Every name that is accepted, in the order in which messages list them. -/
  names : List (String × α)
  /-- The name that is written. -/
  name : α → String

/-- The setting of a name. -/
def Choice.decode {α : Type} (c : Choice α) (name : String) : Except DecodeError α :=
  match c.names.lookup name with
  | some a => .ok a
  | none => .error (.unknownChoice name (c.names.map Prod.fst))

/-- A choice is given by its name, as a text or as the tag of null. -/
def choice {α : Type} (c : Choice α) : Codec α where
  encode a := .text (c.name a)
  decode
    | .text name => c.decode name
    | .tagged tag v =>
      match c.decode (Yaml.tagName tag) with
      | .error e => .error e
      | .ok a =>
        match v.untagged with
        | .null => .ok a
        | _ => .error (.wrongKind v.describe "unit")
    | v => .error (.wrongKind v.describe "a Value::Tagged enum")

/-! ## Laws -/

/-- A text is written as it is. -/
theorem lawful_text : text.Lawful := fun _ => rfl

/-- A path is written as its text. -/
theorem lawful_path : path.Lawful := fun _ => rfl

/-- A truth value is written as one. -/
theorem lawful_flag : flag.Lawful := fun _ => rfl

/-- A number of 32 bits is not too large when it is read again. -/
theorem lawful_word : word.Lawful := fun n => by
  have h : n.toNat < 4294967296 := n.toNat_lt
  have h' : (n.toNat : Int) < 4294967296 := by omega
  simp [word, Yaml.Value.untagged, h']

/-- A list is read back if its items are. -/
theorem lawful_list {α : Type} {c : Codec α} (h : c.Lawful) : c.list.Lawful := by
  intro as
  change c.decodeAll (as.map c.encode) = .ok as
  induction as with
  | nil => rfl
  | cons a as ih => simp [decodeAll, h a, ih]

/-- A choice is read back if each setting is found under the name that is written for it. -/
theorem lawful_choice {α : Type} {c : Choice α} (h : ∀ a, c.names.lookup (c.name a) = some a) :
    (choice c).Lawful := fun a => by
  simp [choice, Choice.decode, h a]

end Codec

end ReleasePipeline
