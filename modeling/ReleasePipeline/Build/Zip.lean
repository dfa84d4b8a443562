/-
The module that packs artifacts into zip archives.

All it has of its own is how files are compressed, `deflate` or `store`, and the name of an archive,
`{{Ext}}` in which is `.zip`. What is packed, under which names and in which order is said by
`Archive.run`, as for tar archives.
-/
import ReleasePipeline.Archive.Write
import ReleasePipeline.Registry

set_option autoImplicit false

namespace ReleasePipeline.Build.Zip

/-- The ways of compressing the files of a zip archive. -/
def compression : Codec.Choice ZipMethod where
  names := [("deflate", .deflated), ("store", .stored)]
  name
    | .deflated => "deflate"
    | .stored => "store"

/-- The settings of the module. -/
abbrev Settings := Archive.Settings ZipMethod

/-- The fields of the settings, and their defaults. -/
def schema : Schema Settings :=
  Archive.Settings.schema (.choice compression)
    { compression := .deflated,
      output := "{{ProjectName}}-{{Version}}-{{OS}}-{{ArchName}}{{Ext}}" }

/-- The module. -/
def module (s : Settings) : Module :=
  .ofSteps (Archive.run (Archive.zip s.compression) ⟨"build:zip", ".zip"⟩ s)

end ReleasePipeline.Build.Zip
