/-
The module that packs artifacts into tar archives, which may be compressed as a whole.

What is compressed is the archive and not its files, so there is only one choice to make, and the
extension says which one was made: the `{{Ext}}` in the name of an archive is `.gz` or nothing,
behind the `.tar` that is part of the default. Everything else is done by `Archive.run`, as for zip
archives.
-/
import ReleasePipeline.Archive.Write
import ReleasePipeline.Registry

set_option autoImplicit false

namespace ReleasePipeline.Build.Tar

/-- How a tar archive is compressed. -/
inductive Compression where
  | none
  | gzip
  deriving DecidableEq, Inhabited, Repr

/-- The extension that is added for the compression. -/
def Compression.extension : Compression → String
  | .none => ""
  | .gzip => ".gz"

/-- The names of the ways of compressing. -/
def compression : Codec.Choice Compression where
  names :=
    [("", .none), ("NONE", .none), ("none", .none), ("GZip", .gzip), ("gz", .gzip), ("gzip", .gzip)]
  name
    | .none => "none"
    | .gzip => "gzip"

/-- The settings of the module. -/
abbrev Settings := Archive.Settings Compression

/-- The fields of the settings, and their defaults. -/
def schema : Schema Settings :=
  Archive.Settings.schema (.choice compression)
    { compression := .none,
      output := "{{ProjectName}}-{{Version}}-{{OS}}-{{ArchName}}.tar{{Ext}}" }

/-- The module. -/
def module (s : Settings) : Module :=
  .ofSteps <|
    Archive.run (Archive.tar (s.compression == .gzip)) ⟨"build:tar", s.compression.extension⟩ s

end ReleasePipeline.Build.Tar
