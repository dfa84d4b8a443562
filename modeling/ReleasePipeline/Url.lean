/-
Addresses of resources, and the target that a request for one names.

An address says how to ask, whom, and for what. It is kept in the form in which it is shown:
with the host in its plain form, without steps that stay or go up in the path, and with the
characters that cannot stand for themselves written as percent signs with two digits.
-/
import ReleasePipeline.Url.NumericHost
import ReleasePipeline.Url.Percent

set_option autoImplicit false

namespace ReleasePipeline

/-- Whom to ask. -/
inductive UrlHost where
  | name (text : String)
  /-- By a number of four bytes. -/
  | ipv4 (number : Nat)
  /-- By a number of eight pairs of bytes. -/
  | ipv6 (pairs : List Nat)
  deriving DecidableEq, Inhabited

/-- The host as it is shown. -/
def UrlHost.text : UrlHost → String
  | .name s => s
  | .ipv4 n => Url.ipv4Text n
  | .ipv6 pairs => "[" ++ Url.ipv6Text pairs ++ "]"

/-- What stands behind the two slashes of an address. -/
structure UrlAuthority where
  user : String := ""
  password : Option String := none
  host : Option UrlHost := none
  /-- The port, unless it is the usual one. -/
  port : Option Nat := none
  deriving DecidableEq, Inhabited

namespace UrlAuthority

/-- The name and the password of the user, as they are shown before the host. -/
def credentials (a : UrlAuthority) : String :=
  match a.password with
  | some p => a.user ++ ":" ++ p ++ "@"
  | none => if a.user = "" then "" else a.user ++ "@"

/-- The authority as it is shown. -/
def text (a : UrlAuthority) : String :=
  a.credentials ++ (a.host.map UrlHost.text).getD ""
    ++ (a.port.map fun n => ":" ++ toString n).getD ""

end UrlAuthority

/-- An address. -/
structure Url where
  scheme : String
  authority : Option UrlAuthority := none
  path : String
  query : Option String := none
  fragment : Option String := none
  deriving DecidableEq, Inhabited

namespace Url

/-! ## Showing -/

/-- The path as it is shown: it must not look like an authority. -/
def shownPath (u : Url) : String :=
  if u.authority.isNone && u.path.startsWith "//" then "/." ++ u.path else u.path

/-- The address as it is shown. -/
def text (u : Url) : String :=
  u.scheme ++ ":" ++ (u.authority.map fun a => "//" ++ a.text).getD "" ++ u.shownPath
    ++ (u.query.map ("?" ++ ·)).getD "" ++ (u.fragment.map ("#" ++ ·)).getD ""

/-! ## Requests -/

/-- The address with one more value in its query. -/
def withQuery (u : Url) (name value : String) : Url :=
  let pair := queryValue name ++ "=" ++ queryValue value
  { u with query := some (match u.query with
      | some "" => pair
      | some q => q ++ "&" ++ pair
      | none => pair) }

/-- What a request for the address names. -/
def target (u : Url) : String :=
  match u.query with
  | some q => u.path ++ "?" ++ q
  | none => u.path

/-- The host, if there is one. -/
def host? (u : Url) : Option UrlHost := u.authority.bind UrlAuthority.host

/-- The address as it is asked: the name and the password of a user are sent in another way, if
they are text. -/
def asked (u : Url) : Url :=
  match u.authority with
  | none => u
  | some a =>
    let password := a.password.bind fun p => percentText? p.toList
    match percentText? a.user.toList with
    | none => u
    | some user =>
      if user = "" && password.isNone then u
      else { u with authority := some { a with user := "", password := none } }

/-- The schemes of addresses that can be asked. -/
def askedSchemes : List String := ["http", "https"]

/-- The address can be asked. -/
def canBeAsked (u : Url) : Bool := askedSchemes.contains u.scheme

/-- The longest address of a request, in bytes. -/
def maxBytes : Nat := 65534

/-- The address can stand in a request: it is not too long, and its host has none of the marks
that a request has no place for. -/
def fitsRequest (u : Url) : Bool :=
  let marked : Bool := match u.host? with
    | some (.name s) => s.toList.any fun c => ['"', '\x60', '{', '}'].contains c
    | _ => false
  !marked && u.text.utf8ByteSize ≤ maxBytes

end Url

end ReleasePipeline
