/-
Requests to a server and its answers.

A request is all that is sent: method, address, headers and body. An answer is its status and its
body, since nothing else of an answer is looked at. The server is a function of everything that it
was sent so far, so a server may change its mind, count its requests, or not answer at all, and
statements about publishing hold for all of these.
-/
import ReleasePipeline.Url
import ReleasePipeline.Json

set_option autoImplicit false

namespace ReleasePipeline

/-- What a request does. -/
inductive HttpMethod where
  | get
  | post
  | patch
  deriving DecidableEq, Inhabited, Repr

/-- The word for the method. -/
def HttpMethod.name : HttpMethod → String
  | .get => "GET"
  | .post => "POST"
  | .patch => "PATCH"

/-- The body of a request. -/
inductive RequestBody where
  | empty
  | json (value : Json)
  | bytes (content : ByteArray)
  deriving Inhabited

/-- A request. -/
structure Request where
  method : HttpMethod
  url : Url
  headers : List (String × String) := []
  body : RequestBody := .empty
  deriving Inhabited

/-- An answer. -/
structure Response where
  status : Nat
  body : ByteArray := .empty
  deriving Inhabited

/-- The request did what it was for. -/
def Response.isSuccess (r : Response) : Bool := 200 ≤ r.status && r.status < 300

/-- How a server behaves: what it answers, after the requests before it; nothing when it cannot
be reached. -/
abbrev Server := List Request → Request → Option Response

end ReleasePipeline
