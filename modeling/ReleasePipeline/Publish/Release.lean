/-
The module that publishes a release with artifacts attached.

The release notes are one artifact of their own, whose ID is in the settings. A release needs a
repository, its notes and a token, in this order, before anybody is asked. Then the client looks the
release up by its tag, creates or edits it, and each selected artifact is uploaded by a request of
its own.

Only the name of the release is a template here. Its tag and its version are those of the context,
and without a tag the release is a draft for the version.
-/
import ReleasePipeline.Archive.Plan
import ReleasePipeline.Publish.ReleaseClient
import ReleasePipeline.Registry

set_option autoImplicit false

namespace ReleasePipeline.Publish.Release

/-! ## Settings -/

/-- A service that hosts releases. -/
inductive Storage where
  | github
  deriving DecidableEq, Inhabited, Repr

/-- The services to choose from. -/
def storage : Codec.Choice Storage where
  names := [("GitHub", .github), ("Github", .github), ("github", .github)]
  name
    | .github => "github"

/-- The variable that holds the token of a service. -/
def Storage.tokenVariable : Storage → String
  | .github => "GITHUB_TOKEN"

/-- The file that holds the token of a service. -/
def Storage.tokenFile : Storage → String
  | .github => "$XDG_CONFIG_HOME/shipline/github_token"

/-- The settings of the module. -/
structure Settings where
  builds : List String := ["archive"]
  skip : List String := []
  /-- The name of the repository. -/
  name : String := ""
  owner : String := ""
  releaseName : String := "{{Version}}"
  /-- The build that the release notes are. -/
  releaseNotes : String := "changelog"
  /-- Certificates are not checked. -/
  trustsAnyone : Bool := false
  storage : Storage := .github
  tokenVariable : String := ""
  tokenFile : String := ""
  /-- The address of a service of one's own. -/
  url : String := ""
  deriving DecidableEq

/-- The fields of the settings, and their defaults. -/
def schema : Schema Settings where
  defaults := {}
  fields :=
    [.of "builds" (.list .text) (·.builds) fun v s => { s with builds := v },
      .of "skip" (.list .text) (·.skip) fun v s => { s with skip := v },
      .of "name" .text (·.name) fun v s => { s with name := v },
      .of "owner" .text (·.owner) fun v s => { s with owner := v },
      .of "release_name" .text (·.releaseName) fun v s => { s with releaseName := v },
      .of "release_notes" .text (·.releaseNotes) fun v s => { s with releaseNotes := v },
      .of "skip_tls_verify" .flag (·.trustsAnyone) fun v s => { s with trustsAnyone := v },
      .of "storage" (.choice storage) (·.storage) fun v s => { s with storage := v },
      .of "token_env" .text (·.tokenVariable) fun v s => { s with tokenVariable := v },
      .of "token_file" .text (·.tokenFile) fun v s => { s with tokenFile := v },
      .of "url" .text (·.url) fun v s => { s with url := v }]

/-! ## The token -/

/-- The value of a variable, if it can be a token. -/
def tokenInVariable? (env : Environment) (name : String) : Option String :=
  if name = "" then none else (env.get? name).filter (· ≠ "")

/-- The text of a file without the blanks around it, if it can be a token. -/
def tokenInFile? (files : Files) (env : Environment) (file : String) : Option String :=
  if file = "" then none
  else
    match files.read ⟨env.expand file⟩ with
    | .error _ => none
    | .ok content => ((Text.decode? content.toBytes).map Text.trim).filter (· ≠ "")

/-- The token: from the variable of the settings, the variable of the service, the file of the
settings, the file of the service. -/
def token? (s : Settings) (env : Environment) (files : Files) : Option String :=
  match [s.tokenVariable, s.storage.tokenVariable].findSome? (tokenInVariable? env) with
  | some token => some token
  | none => [s.tokenFile, s.storage.tokenFile].findSome? (tokenInFile? files env)

/-- Looks the token up. -/
def token (s : Settings) (env : Environment) : HostM String := do
  match token? s env (← get).files with
  | some token => return token
  | none => HostM.fail (.noToken s.storage.tokenVariable s.storage.tokenFile)

/-! ## Publishing -/

/-- Reads the release notes. -/
def releaseNotes (s : Settings) (ctx : Context) : HostM String :=
  match ctx.catalog.byId s.releaseNotes with
  | [] => HostM.fail .noReleaseNotes
  | [a] => HostM.during (.readingReleaseNotes a.location) (HostM.readText a.location)
  | _ => HostM.fail .severalReleaseNotes

/-- The part of the program that speaks. -/
def source : String := "shipline::modules::release"

/-- Gives a release its assets, one after the other. -/
def uploadAll (s : Settings) (client : ReleaseClient) (release : Nat) :
    List Artifact → HostM Unit
  | [] => pure ()
  | a :: rest => do
    HostM.during (.uploading a.filename s.owner s.name release) (client.uploadAsset release a)
    HostM.info source "Asset uploaded"
    uploadAll s client release rest

/-- Publishes through a client. -/
def publishWith (s : Settings) (ctx : Context) (client : ReleaseClient) : HostM Unit := do
  let notes ← releaseNotes s ctx
  let name ← HostM.ofExcept (Archive.renderText ctx.scope "publish:artifact" s.releaseName)
  let release ← client.publish (.make ctx.repository.tag ctx.version name notes)
  uploadAll s client release (ctx.catalog.group s.builds s.skip).artifacts

/-- Publishes the release. -/
def run (s : Settings) (ctx : Context) : HostM Unit := do
  if s.owner = "" ∨ s.name = "" then HostM.fail .noRepository
  else
    -- without notes nobody is bothered for a token
    let _ ← releaseNotes s ctx
    let token ← token s ctx.environment
    HostM.info source "Publishing release"
    publishWith s ctx (.make s.url token s.owner s.name)

/-- The module. -/
def module (s : Settings) : Module := .ofReading (run s)

end ReleasePipeline.Publish.Release
