/-
Why a value cannot be taken for a setting.

Either the value is of another kind than the setting, or of the right kind and does not fit, or its
name is one that nobody knows or that was there before. Messages tell what was found and what would
have been right; where one of several names was expected, all of them are listed.
-/
import ReleasePipeline.Number.Shortest
import ReleasePipeline.Text.Quoted
import ReleasePipeline.Yaml.Value

set_option autoImplicit false

namespace ReleasePipeline

/-- What is wrong with the parameters of a module. -/
inductive DecodeError where
  /-- A value of another kind than expected. -/
  | wrongKind (found : String) (expected : String)
  /-- A value of the right kind that does not fit. -/
  | outOfRange (found : String) (expected : String)
  | unknownField (name : String) (known : List String)
  | repeatedField (name : String)
  | unknownChoice (name : String) (known : List String)
  deriving DecidableEq, Inhabited

namespace DecodeError

/-- A name as it stands in a message. -/
def code (name : String) : String := "`" ++ name ++ "`"

/-- The names that would have been right; `nothing` is said when there are none. -/
def expectedNames (nothing : String) : List String → String
  | [] => nothing
  | [a] => "expected " ++ code a
  | [a, b] => "expected " ++ code a ++ " or " ++ code b
  | names => "expected one of " ++ ", ".intercalate (names.map code)

/-- The wording of the error. -/
def message : DecodeError → String
  | .wrongKind found expected => "invalid type: " ++ found ++ ", expected " ++ expected
  | .outOfRange found expected => "invalid value: " ++ found ++ ", expected " ++ expected
  | .unknownField name known =>
    "unknown field " ++ code name ++ ", " ++ expectedNames "there are no fields" known
  | .repeatedField name => "duplicate field " ++ code name
  | .unknownChoice name known =>
    "unknown variant " ++ code name ++ ", " ++ expectedNames "there are no variants" known

end DecodeError

/-- A value as it is described in a message; tags do not count. -/
def Yaml.Value.describe (v : Yaml.Value) : String :=
  match v.untagged with
  | .null => "unit value"
  | .bool b => "boolean " ++ DecodeError.code (if b then "true" else "false")
  | .int n => "integer " ++ DecodeError.code (toString n)
  | .float x => "floating point " ++ DecodeError.code x.messageText
  | .text s => "string " ++ Text.quoted s
  | .list _ => "sequence"
  | .map _ => "map"
  | .tagged .. => "enum"

end ReleasePipeline
