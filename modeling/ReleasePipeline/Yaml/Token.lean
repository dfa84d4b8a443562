/-
The tokens of a YAML stream.

Block structure is made visible by tokens that stand for no character: the start of
a block sequence or mapping, and the end of a block, are put in where the
indentation grows and shrinks, and a `key` token is put in front of a key that is
recognised only by the colon behind it.
-/

set_option autoImplicit false

namespace ReleasePipeline.Yaml

/-- A tag, or a part of one, as the octets that spell it. Escapes may spell octets that are no
text, so a tag need not be one. -/
abbrev TagOctets := List UInt8

/-- The octets of a tag that is a text. -/
def tagOctets (s : String) : TagOctets := s.toUTF8.toList

/-- A token. -/
inductive Token where
  | versionDirective (major minor : Nat)
  | tagDirective (handle : String) (replacement : TagOctets)
  | documentStart
  | documentEnd
  | streamEnd
  | blockSequenceStart
  | blockMappingStart
  | blockEnd
  | flowSequenceStart
  | flowSequenceEnd
  | flowMappingStart
  | flowMappingEnd
  | blockEntry
  | flowEntry
  | key
  | value
  /-- A reference to the node that carries the anchor of that name. -/
  | reference (name : String)
  | anchor (name : String)
  /-- A tag: its handle, empty for a verbatim tag and the lone mark, and its suffix. -/
  | tag (handle : String) (suffix : TagOctets)
  /-- A scalar, and whether it was written without quotes on lines of the flow. -/
  | scalar (text : List Char) (plain : Bool)
  deriving DecidableEq, Inhabited

end ReleasePipeline.Yaml
