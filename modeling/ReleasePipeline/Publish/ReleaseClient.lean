/-
Talking to a service that hosts releases.

A release is found by its tag, created, edited, and given assets. Publishing finds the
release of the tag first: if there is none it is created, else it is edited, and keeps its
notes if it has any.
-/
import ReleasePipeline.Host
import ReleasePipeline.Json.Reader
import ReleasePipeline.Publish.SemanticVersion

set_option autoImplicit false

namespace ReleasePipeline.Publish

/-! ## Data -/

/-- What a release is to be. -/
structure ReleaseData where
  name : String
  tagName : String
  /-- The notes. -/
  body : String
  isDraft : Bool
  isPreRelease : Bool
  deriving DecidableEq, Repr

namespace ReleaseData

/-- The tag that a release gets: that of the commit, or else the version. -/
def tagFor (tag version : String) : String := if tag = "" then version else tag

/-- The data of a release. Without a tag it is a draft; a version before that of a release
marks a pre-release. -/
def make (tag version name notes : String) : ReleaseData where
  name
  tagName := tagFor tag version
  body := notes
  isDraft := tag = ""
  isPreRelease :=
    match SemanticVersion.parse? (tagFor tag version) with
    | some v => v.isPreRelease
    | none => false

/-- The data as they are sent. -/
def toJson (d : ReleaseData) : Json :=
  .object [("name", .string d.name), ("tag_name", .string d.tagName), ("body", .string d.body),
    ("draft", .bool d.isDraft), ("prerelease", .bool d.isPreRelease)]

end ReleaseData

/-- What the service tells about a release. -/
structure ReleaseInfo where
  id : Nat
  body : Option String := none
  deriving DecidableEq, Repr

namespace ReleaseInfo

/-- The largest number of a release. -/
def maxId : Nat := 18446744073709551615

/-- Reads the number of a release. -/
def id? : Json → Option Nat
  | .number spelling =>
    if spelling.toList.all Char.isDigit then spelling.toNat?.filter (· ≤ maxId) else none
  | _ => none

/-- Reads the notes of a release, which may be absent. -/
def body? : Json → Option (Option String)
  | .null => some none
  | value => (value.asString?.bind Json.text?).map some

/-- The values of a member, however often it is there. -/
def values (name : String) (members : List (String × Json)) : List Json :=
  (members.filter (·.1 == name)).map Prod.snd

/-- Members by the texts of their names. -/
def named? (members : List (String × Json)) : Option (List (String × Json)) :=
  members.mapM fun (name, value) => (Json.text? name).map (·, value)

/-- Reads members of which one is a number and at most one a text for the notes. -/
def ofMembers? (members : List (String × Json)) : Option ReleaseInfo :=
  match values "id" members, values "body" members with
  | [id], [] => do return { id := ← id? id }
  | [id], [body] => do return { id := ← id? id, body := ← body? body }
  | _, _ => none

/-- Reads what the service tells: an object with members, or the number and the notes in order.
The value is one whose strings were passed over. The names of its members are wanted and so are the
notes, but nothing else of it. -/
def ofSkimmed? : Json → Option ReleaseInfo
  | .object members => (named? members).bind ofMembers?
  | .array [id] => do return { id := ← id? id }
  | .array [id, body] => do return { id := ← id? id, body := ← body? body }
  | _ => none

/-- Reads what an answer of the service tells. -/
def read? (answer : ByteArray) : Option ReleaseInfo := (Json.skim? answer).bind ofSkimmed?

end ReleaseInfo

/-! ## The client -/

/-- How to reach the releases of a repository. -/
structure ReleaseClient where
  apiUrl : String
  uploadUrl : String
  owner : String
  repository : String
  token : String
  deriving DecidableEq

namespace ReleaseClient

/-- Without the slashes at the end. -/
def withoutSlashes (s : String) : String :=
  String.ofList ((s.toList.reverse.dropWhile (· == '/')).reverse)

/-- A client for a service. The empty address stands for the public one; any other service has
its interface below its address. -/
def make (baseUrl token owner repository : String) : ReleaseClient :=
  if baseUrl = "" then
    { apiUrl := "https://api.github.com/", uploadUrl := "https://uploads.github.com/",
      owner, repository, token }
  else
    let base := withoutSlashes baseUrl
    { apiUrl := base ++ "/api/v3/", uploadUrl := base ++ "/api/uploads/", owner, repository, token }

/-- How the client names itself. -/
def userAgent : String := "shipline/0.1.0"

/-- The headers of every request. -/
def headers (c : ReleaseClient) : List (String × String) :=
  [("authorization", "Bearer " ++ c.token), ("accept", "application/vnd.github+json"),
    ("user-agent", userAgent)]

/-- The address of the releases of a repository below another one. -/
def releasesUnder (c : ReleaseClient) (base : String) : String :=
  base ++ "repos/" ++ c.owner ++ "/" ++ c.repository ++ "/releases"

/-- The address of all releases. -/
def releasesUrl (c : ReleaseClient) : String := c.releasesUnder c.apiUrl

/-- The address of the release of a tag. -/
def tagUrl (c : ReleaseClient) (tag : String) : String := c.releasesUrl ++ "/tags/" ++ tag

/-- The address of a release. -/
def releaseUrl (c : ReleaseClient) (id : Nat) : String := c.releasesUrl ++ "/" ++ toString id

/-- The address for the assets of a release. -/
def assetsUrl (c : ReleaseClient) (id : Nat) : String :=
  c.releasesUnder c.uploadUrl ++ "/" ++ toString id ++ "/assets"

/-! ## Requests -/

/-- A text that can be sent as a header: without control characters other than the tab. -/
def isHeaderText (s : String) : Bool :=
  s.toList.all fun c => c == '\t' || (32 ≤ c.toNat && c.toNat != 127)

/-- Reads the address of a request with a token. -/
def requestUrl (url token : String) : Except Cause Url := do
  let u ← (Url.parse url).mapError .badUrl
  if u.host?.isNone then throw (.unaskedScheme u.text)
  if !isHeaderText token then throw .badHeader
  let u := u.asked
  if !u.canBeAsked then throw (.unaskedScheme u.text)
  if !u.fitsRequest then throw (.unfitUrl u.text)
  return u

/-- Sends a request to an address; `change` adds to it. One request is sent and one answer taken.
Redirects are not followed: an answer with a status of 301 or 307 and a `Location` would send the
same request once more, to another address, before it is looked at here. A service is represented by
what it answers in the end, and the requests on record are those to the first address. -/
def send (c : ReleaseClient) (method : HttpMethod) (url : String) (change : Request → Request) :
    HostM Response :=
  HostM.during (.requesting method.name url) do
    let u ← HostM.lift id (requestUrl url c.token)
    -- what was sent is on record, whether an answer comes or not
    let request := change { method, url := u, headers := c.headers }
    let h ← get
    let answer := h.server h.requests request
    set { h with requests := h.requests ++ [request] }
    match answer with
    | some r => return r
    | none => HostM.fail (.unreachable request.url.text)

/-- A request that carries a JSON value. -/
def carrying (value : Json) (r : Request) : Request :=
  { r with headers := r.headers ++ [("content-type", "application/json")], body := .json value }

/-- Takes an answer only if the request did what it was for. The message of a failure shows the body
of the answer, with a replacement character where it is not UTF-8. -/
def checked (r : Response) : HostM Response :=
  if r.isSuccess then pure r
  else HostM.fail (.badStatus r.status (Text.trim (Text.decodeLossy r.body)))

/-- Reads what an answer tells about a release. -/
def releaseIn (r : Response) : HostM ReleaseInfo := do
  let r ← checked r
  match ReleaseInfo.read? r.body with
  | some info => return info
  | none => HostM.during .readingAnswer (HostM.fail .badBody)

/-- Finds the release of a tag. -/
def releaseByTag (c : ReleaseClient) (tag : String) : HostM (Option ReleaseInfo) := do
  let r ← c.send .get (c.tagUrl tag) id
  -- not found is an answer here, and a failure everywhere else
  if r.status = 404 then return none else return some (← releaseIn r)

/-- Creates a release. -/
def createRelease (c : ReleaseClient) (data : ReleaseData) : HostM ReleaseInfo := do
  releaseIn (← c.send .post c.releasesUrl (carrying data.toJson))

/-- Changes a release. -/
def editRelease (c : ReleaseClient) (id : Nat) (data : ReleaseData) : HostM ReleaseInfo := do
  releaseIn (← c.send .patch (c.releaseUrl id) (carrying data.toJson))

/-- The part of the program that speaks. -/
def source : String := "shipline::modules::github"

/-- The data for a release that is there already: it keeps its notes if it has any. -/
def keepingNotes (data : ReleaseData) (existing : ReleaseInfo) : ReleaseData :=
  match existing.body with
  | some body => if body = "" then data else { data with body }
  | none => data

/-- Creates the release of a tag or brings it up to date; the result is its number. -/
def publish (c : ReleaseClient) (data : ReleaseData) : HostM Nat := do
  match ← c.releaseByTag data.tagName with
  | none =>
    let created ← HostM.during (.creatingRelease data.tagName) (c.createRelease data)
    HostM.info source "Release created"
    return created.id
  | some existing =>
    let edited ← HostM.during (.updatingRelease data.tagName) <|
      c.editRelease existing.id (keepingNotes data existing)
    HostM.info source "Release updated"
    return edited.id

/-- A request that carries a file under a name. -/
def carryingFile (name : String) (content : ByteArray) (r : Request) : Request :=
  { r with
    url := r.url.withQuery "name" name
    headers := r.headers ++ [("content-type", "application/octet-stream")]
    body := .bytes content }

/-- Gives a release an asset. -/
def uploadAsset (c : ReleaseClient) (release : Nat) (a : Artifact) : HostM Unit := do
  let content ← HostM.during (.openingSource a.location) (HostM.query (·.read a.location))
  let r ← c.send .post (c.assetsUrl release) (carryingFile a.filename content.toBytes)
  let _ ← checked r
  return ()

end ReleaseClient

end ReleasePipeline.Publish
