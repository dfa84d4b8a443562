/-
The module that lists the digests of artifacts.

Each line of the listing is a digest, two spaces and a file name, in the order of the selection:
this is what `sha256sum --check` and its relatives read. Nothing is written when nothing is
selected, and nothing either when an artifact cannot be read. The name of the listing is a template
that sees the name of the hash function, but no target, since a listing is for all of them.
-/
import ReleasePipeline.Archive.Plan
import ReleasePipeline.Digest
import ReleasePipeline.Registry

set_option autoImplicit false

namespace ReleasePipeline.Build.Checksum

/-- The settings of the module. -/
structure Settings where
  algorithm : HashAlgorithm := .sha256
  builds : List String := ["archive"]
  id : String := "checksum"
  output : String := "{{ProjectName}}-{{Version}}-checksums.txt"
  skip : List String := []
  deriving DecidableEq

/-- The hash functions to choose from. -/
def algorithm : Codec.Choice HashAlgorithm where
  names := [("sha224", .sha224), ("sha256", .sha256), ("sha384", .sha384), ("sha512", .sha512)]
  name := HashAlgorithm.name

/-- The fields of the settings, and their defaults. -/
def schema : Schema Settings where
  defaults := {}
  fields :=
    [.of "algorithm" (.choice algorithm) (·.algorithm) fun v s => { s with algorithm := v },
      .of "builds" (.list .text) (·.builds) fun v s => { s with builds := v },
      .of "id" .text (·.id) fun v s => { s with id := v },
      .of "output" .text (·.output) fun v s => { s with output := v },
      .of "skip" (.list .text) (·.skip) fun v s => { s with skip := v }]

/-- The part of the program that speaks. -/
def source : String := "shipline::modules::checksum"

/-- The digest of a file. -/
def digestFile (algorithm : HashAlgorithm) (p : Path) : HostM String := do
  let node ← HostM.during (.openingToHash p) (HostM.query (·.openNode p))
  let content ← HostM.during (.readingToHash p) (HostM.query fun _ => Files.readNode node)
  return algorithm.hexDigest content.toBytes

/-- A line of the listing. -/
def line (digest filename : String) : String := digest ++ "  " ++ filename

/-- The lines for some artifacts, or the first failure. -/
def lines (algorithm : HashAlgorithm) : List Artifact → HostM (List String)
  | [] => pure []
  | a :: rest => do
    let digest ← digestFile algorithm a.location
    let later ← lines algorithm rest
    return line digest a.filename :: later

/-- The listing that lines make. -/
def listing (lines : List String) : String := "\n".intercalate lines ++ "\n"

/-- Writes the listing and records it. -/
def run (s : Settings) : RunM Unit := do
  let ctx ← RunM.context
  let scope := { ctx.scope with algorithm := s.algorithm.name }
  let output ← RunM.host (HostM.ofExcept (Archive.renderText scope "checksum" s.output))
  let location := ctx.targetDirectory.join ⟨output⟩
  let groups := ctx.catalog.group s.builds s.skip
  if groups.isEmpty then
    RunM.host <|
      HostM.warn source "No artifacts to checksum" [("builds", Text.quotedList s.builds)]
  else
    -- all files are read before anything is written
    let lines ← RunM.host (lines s.algorithm groups.artifacts)
    RunM.host (HostM.createParent location)
    RunM.host <| HostM.during (.writingChecksums location) <|
      HostM.change (·.write location (.ofText (listing lines)))
    RunM.host (HostM.info source "Checksum file written")
    RunM.update (·.record [{ id := s.id, filename := output, location }])

/-- The module. -/
def module (s : Settings) : Module := .ofSteps (run s)

end ReleasePipeline.Build.Checksum
