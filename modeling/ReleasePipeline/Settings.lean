/-
The settings of a module: defaults, and parameters that replace some of them.

A schema lists the fields of a settings record. Parameters are laid over the written
defaults, each in the place of the field it names and new ones at the end, and the
result is read entry by entry. So of several faults the one that is reported is the
first in the order of the fields; fields that do not exist come last.
-/
import ReleasePipeline.Settings.Codec

set_option autoImplicit false

namespace ReleasePipeline

/-- A field of a settings record: its name, how its values are written and read, and its place
in a record. -/
structure SettingsField (σ : Type) where
  name : String
  {Carrier : Type}
  codec : Codec Carrier
  get : σ → Carrier
  set : Carrier → σ → σ

namespace SettingsField

variable {σ : Type}

/-- The field that a codec and a pair of access functions make. -/
def of {α : Type} (name : String) (c : Codec α) (get : σ → α) (set : α → σ → σ) :
    SettingsField σ where
  name
  codec := c
  get
  set

/-- The value of the field in a record, as it is written. -/
def encode (f : SettingsField σ) (settings : σ) : Yaml.Value := f.codec.encode (f.get settings)

/-- Reads a value for the field, which can then be put into a record. -/
def decode (f : SettingsField σ) (v : Yaml.Value) : Except DecodeError (σ → σ) :=
  (f.codec.decode v).map f.set

end SettingsField

/-- The fields of a settings record and their defaults. -/
structure Schema (σ : Type) where
  defaults : σ
  fields : List (SettingsField σ)

namespace Schema

variable {σ : Type}

/-- The names of the fields. -/
def names (s : Schema σ) : List String := s.fields.map (·.name)

/-- The field of a name. -/
def field? (s : Schema σ) (name : String) : Option (SettingsField σ) :=
  s.fields.find? (·.name == name)

/-- A record as the entries of a mapping, every field under its name. -/
def serialise (s : Schema σ) (settings : σ) : Yaml.Entries :=
  s.fields.map fun f => (.text f.name, f.encode settings)

/-- Reads entries one after the other into a record; `seen` holds the names of the fields
that have been read. -/
def decodeFrom (s : Schema σ) : List String → σ → Yaml.Entries → Except DecodeError σ
  | _, settings, [] => .ok settings
  | seen, settings, (key, value) :: rest =>
    match key.asText? with
    | none => .error (.wrongKind key.describe "field identifier")
    | some name =>
      match s.field? name with
      | none => .error (.unknownField name s.names)
      | some field =>
        -- two keys can mean one field: with a tag and without
        if name ∈ seen then .error (.repeatedField name)
        else
          match field.decode value with
          | .error e => .error e
          | .ok set => decodeFrom s (name :: seen) (set settings) rest

/-- The key under which parameters say what type of module they are for. -/
def typeKey : String := "type"

/-- Lays parameters over entries; the type of the module is no setting. -/
def overlay (entries params : Yaml.Entries) : Yaml.Entries :=
  params.foldl (fun merged entry =>
    if entry.1.asText? = some typeKey then merged
    else Yaml.Entries.insert merged entry.1 entry.2) entries

/-- The defaults with the given parameters in their place. -/
def configure (s : Schema σ) (params : Option Yaml.Entries) : Except DecodeError σ :=
  match params with
  | none => .ok s.defaults
  | some params => s.decodeFrom [] s.defaults (overlay (s.serialise s.defaults) params)

end Schema

end ReleasePipeline
