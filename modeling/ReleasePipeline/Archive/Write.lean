/-
Writing archives, and the module that packs the artifacts of earlier builds.

One archive is written for each target of the selection, together with files that patterns
stand for, by default `README*`. The selection has to be a full rectangle: every build that is
asked for has an artifact for every target. An archive that cannot be packed to its end is left
behind with what was put in before, and so are the archives written before it; but artifacts are
recorded for them only when all are written.
-/
import ReleasePipeline.Archive.Packing
import ReleasePipeline.Registry

set_option autoImplicit false

namespace ReleasePipeline.Archive

/-! ## Settings -/

/-- The settings of a module that packs artifacts; the kinds of archive differ in how they
are compressed. -/
structure Settings (γ : Type) where
  builds : List String := ["default"]
  commonDirectory : String := "{{ProjectName}}-{{Version}}-{{OS}}-{{ArchName}}"
  compression : γ
  /-- Patterns for files that go into every archive. -/
  files : List String := ["README*"]
  id : String := "archive"
  output : String
  skip : List String := []
  deriving DecidableEq

/-- The fields of the settings, and their defaults. -/
def Settings.schema {γ : Type} (compression : Codec γ) (defaults : Settings γ) :
    Schema (Settings γ) where
  defaults
  fields :=
    [.of "builds" (.list .text) (·.builds) fun v s => { s with builds := v },
      .of "common_dir" .text (·.commonDirectory) fun v s => { s with commonDirectory := v },
      .of "compression" compression (·.compression) fun v s => { s with compression := v },
      .of "files" (.list .text) (·.files) fun v s => { s with files := v },
      .of "id" .text (·.id) fun v s => { s with id := v },
      .of "output" .text (·.output) fun v s => { s with output := v },
      .of "skip" (.list .text) (·.skip) fun v s => { s with skip := v }]

/-! ## Writing -/

/-- The part of the program that speaks. -/
def source : Format → String
  | { kind := .zip _, .. } => "shipline::modules::archive"
  | { kind := .tar _, .. } => "shipline::modules::tarball"

/-- The regular files that patterns stand for, pattern by pattern. -/
def staticFiles (patterns : List String) : HostM (List Path) :=
  match patterns with
  | [] => pure []
  | pattern :: rest => do
    let parsed ←
      HostM.during (.readingPattern pattern) (HostM.lift .pattern (Pattern.parse pattern))
    let files := (← get).files
    let found := (files.glob parsed).filter files.isFile
    return found ++ (← staticFiles rest)

/-- Writes an archive at `location`: its directory is created, an archive without entries is put
there, and the sources are packed from the files as they are then.

So an archive is no source of itself: a source found at `location` (a pattern `files:
["dist/*.zip"]` can name one, left there by the run before) is packed as the empty archive that was
just begun. On a disk the entries are written as they come, and such a source would be read as far
as the buffers had been flushed; a `Store` entry or a plain tar archive would grow under the reader,
and packing would not end. Neither is represented. -/
def write (format : Format) (plan : Plan) (location : Path) (files : List Path) : HostM Unit := do
  HostM.createParent location
  HostM.during (.creatingArchive location) <|
    HostM.change (·.write location (.archive format.kind []))
  let packed := format.pack (← get).files [] (plan.entries files)
  -- an archive that could not be packed to its end is there all the same
  HostM.change (·.write location (.archive format.kind packed.entries))
  match packed.failure? with
  | some f => throw f
  | none => pure ()

/-- What the module goes by in error messages, and the extension that its templates see. -/
structure Labels where
  module : String
  extension : String

/-- Writes one archive for each group of artifacts, and tells which artifacts they are. -/
def writeGroups {γ : Type} (format : Format) (labels : Labels) (s : Settings γ) (ctx : Context)
    (files : List Path) : List (String × List Artifact) → HostM (List Artifact)
  | [] => pure []
  | (_, artifacts) :: rest => do
    let plan ← HostM.ofExcept <|
      Plan.make labels.module labels.extension s.commonDirectory s.output ctx artifacts
    let location := ctx.targetDirectory.join ⟨plan.output⟩
    HostM.during (.writingArchive location) (write format plan location files)
    HostM.info (source format) "Archive written"
    let later ← writeGroups format labels s ctx files rest
    return plan.toArtifact s.id location :: later

/-- Packs the selected artifacts, and tells which artifacts the archives are. -/
def packAll {γ : Type} (format : Format) (labels : Labels) (s : Settings γ) (ctx : Context) :
    HostM (List Artifact) := do
  let groups := ctx.catalog.group s.builds s.skip
  HostM.lift .selection groups.validate
  let files ← staticFiles s.files
  writeGroups format labels s ctx files groups.toList

/-- Packs the selected artifacts. The archives are recorded when all are written. -/
def run {γ : Type} (format : Format) (labels : Labels) (s : Settings γ) : RunM Unit := do
  let ctx ← RunM.context
  let archives ← RunM.host (packAll format labels s ctx)
  RunM.update (·.record archives)

end ReleasePipeline.Archive
