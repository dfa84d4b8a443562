/-
Reading addresses.

The scheme decides how the rest is read. Most schemes of the network name a host by its domain
or its number, and take both slashes for the same; files may do without a host; and in all other
addresses a host is just text, and may be missing as well as the slashes before the path.
-/
import ReleasePipeline.DomainName
import ReleasePipeline.Url

set_option autoImplicit false

namespace ReleasePipeline

/-- What is wrong with the text of an address. -/
inductive UrlFault where
  /-- There is no scheme, so it could only be read from another address. -/
  | relative
  | emptyHost
  | badPort
  | badIpv4
  | badIpv6
  /-- A host that is no name of a domain. -/
  | badDomain
  /-- A host that holds a mark with a meaning of its own. -/
  | badHostMark
  deriving DecidableEq, Inhabited, Repr

/-- The wording of the fault. -/
def UrlFault.message : UrlFault → String
  | .relative => "relative URL without a base"
  | .emptyHost => "empty host"
  | .badPort => "invalid port number"
  | .badIpv4 => "invalid IPv4 address"
  | .badIpv6 => "invalid IPv6 address"
  | .badDomain => "invalid international domain name"
  | .badHostMark => "invalid domain character"

namespace Url

/-! ## Schemes -/

/-- How an address is read. -/
inductive Manner where
  /-- An address in the network, with the usual port. -/
  | network (port : Nat)
  | file
  | other
  deriving DecidableEq, Repr

/-- The manner of a scheme. -/
def manner : String → Manner
  | "http" | "ws" => .network 80
  | "https" | "wss" => .network 443
  | "ftp" => .network 21
  | "file" => .file
  | _ => .other

/-- What separates the steps of a path. -/
def Manner.isSlash : Manner → Char → Bool
  | .other, c => c == '/'
  | _, c => c == '/' || c == '\\'

/-- A character of a scheme. -/
def isSchemeChar (c : Char) : Bool := c.isAlphanum || c == '+' || c == '-' || c == '.'

/-- The scheme of an address and what follows its colon. -/
def scheme? (cs : List Char) : Option (String × List Char) := do
  let (scheme, rest) ← Text.splitOnce? ':' cs
  if scheme.head?.any Char.isAlpha && scheme.all isSchemeChar then
    some (String.ofList (scheme.map Char.toLower), rest)
  else none

/-! ## Texts -/

/-- A blank or a control character. -/
def isBorder (c : Char) : Bool := c.toNat ≤ 32

/-- The text of an address without what does not count: blanks and controls at both ends, tabs
and line ends anywhere. -/
def cleaned (cs : List Char) : List Char :=
  let trimmed := ((cs.dropWhile isBorder).reverse.dropWhile isBorder).reverse
  trimmed.filter fun c => c != '\t' && c != '\n' && c != '\r'

/-- What stands before a mark, and what stands after it, if it is there. -/
def cut (mark : Char) (cs : List Char) : List Char × Option (List Char) :=
  match Text.splitOnce? mark cs with
  | some (before, after) => (before, some after)
  | none => (cs, none)

/-- The parts that follow the scheme. -/
structure Tail where
  /-- The authority and the path. -/
  body : List Char
  query : Option (List Char)
  fragment : Option (List Char)

/-- Takes the parts that follow the scheme from one another. -/
def tail (cs : List Char) : Tail :=
  let (before, fragment) := cut '#' cs
  let (body, query) := cut '?' before
  { body, query, fragment }

/-- The address whose scheme, authority and path are known. -/
def Tail.finish (t : Tail) (scheme : String) (authority : Option UrlAuthority)
    (path : List Char) : Url :=
  let stands := if manner scheme = .other then standsInAnyQuery else standsInQuery
  { scheme, authority, path := String.ofList path
    query := t.query.map fun q => String.ofList (percentEncode stands q)
    fragment := t.fragment.map fun f => String.ofList (percentEncode standsInFragment f) }

/-! ## Paths -/

/-- The spellings of a step that stays. -/
def isStay (step : List Char) : Bool :=
  [".", "%2e"].contains (String.ofList (step.map Char.toLower))

/-- The spellings of a step that goes up. -/
def isUp (step : List Char) : Bool :=
  ["..", ".%2e", "%2e.", "%2e%2e"].contains (String.ofList (step.map Char.toLower))

/-- The letter of a drive; `second` are the marks that may follow it. -/
def isDrive (second : List Char) : List Char → Bool
  | [a, b] => a.isAlpha && second.contains b
  | _ => false

/-- The steps after going up; `above` are the steps so far, the last one first. In the path of a
file, nothing is above a drive. -/
def goUp (m : Manner) (above : List (List Char)) : List (List Char) :=
  match above with
  | [drive] => if m == .file && isDrive [':'] drive then above else []
  | _ => above.tail

/-- Resolves steps; `above` are the steps so far, the last one first. A step that stays or goes
up at the end leaves a slash there. -/
def resolve (m : Manner) (above : List (List Char)) : List (List Char) → List (List Char)
  | [] => above.reverse
  | step :: rest =>
    let close (above : List (List Char)) : List (List Char) :=
      if rest.isEmpty then [] :: above else above
    if isUp step then resolve m (close (goUp m above)) rest
    else if isStay step then resolve m (close above) rest
    else resolve m (percentEncode standsInPath step :: above) rest

/-- Splits a path at its slashes. -/
def steps (m : Manner) (cs : List Char) : List (List Char) :=
  Text.splitOn '/' (cs.map fun c => if m.isSlash c then '/' else c)

/-- The path that steps make. -/
def joinSteps (steps : List (List Char)) : List Char := '/' :: ['/'].intercalate steps

/-- Without the slash at the front. -/
def dropSlash (m : Manner) : List Char → List Char
  | [] => []
  | c :: cs => if m.isSlash c then cs else c :: cs

/-- The path of an address with steps. Only where hosts are just text it may be empty. -/
def normalPath (m : Manner) (cs : List Char) : List Char :=
  if m == .other && cs.isEmpty then [] else joinSteps (resolve m [] (steps m (dropSlash m cs)))

/-! ## Hosts -/

/-- A mark that has a meaning of its own, and so cannot stand in a host that is just text. -/
def isHostMark (c : Char) : Bool :=
  c == '\x00' || c == '\t' || c == '\n' || c == '\r' || " #/:<>?@[\\]^|".toList.contains c

/-- Reads what stands in brackets. -/
def bracketHost? : List Char → Option UrlHost
  | '[' :: rest =>
    if rest.getLast? = some ']' then (readIpv6? rest.dropLast).map .ipv6 else none
  | _ => none

/-- Reads a host in the network. -/
def networkHost (cs : List Char) : Except UrlFault UrlHost :=
  if cs.head? = some '[' then
    match bracketHost? cs with
    | some h => .ok h
    | none => .error .badIpv6
  else
    match (percentText? cs).bind fun s => DomainName.plain? s.toList with
    | none => .error .badDomain
    | some [] => .error .emptyHost
    | some name =>
      if endsInNumber name then
        match readIpv4? name with
        | some n => .ok (.ipv4 n)
        | none => .error .badIpv4
      else .ok (.name (String.ofList name))

/-- Reads a host that is just text. -/
def textHost (cs : List Char) : Except UrlFault (Option UrlHost) :=
  if cs.head? = some '[' then
    match bracketHost? cs with
    | some h => .ok (some h)
    | none => .error .badIpv6
  else if cs.any isHostMark then .error .badHostMark
  else if cs.isEmpty then .ok none
  else .ok (some (.name (String.ofList (percentEncode standsInOpaque cs))))

/-! ## Authorities -/

/-- The name and the password of a user. An empty password is none. -/
def readUser (cs : List Char) : UrlAuthority :=
  let (user, password) := cut ':' cs
  let shown (cs : List Char) : String := String.ofList (percentEncode standsInUser cs)
  { user := shown user
    password := match password with
      | none | some [] => none
      | some p => some (shown p) }

/-- What stands before the last mark, if it is there, and what stands after it. -/
def cutLast (mark : Char) (cs : List Char) : Option (List Char) × List Char :=
  let (after, before) := cut mark cs.reverse
  (before.map List.reverse, after.reverse)

/-- The number of characters up to the port: a colon between brackets does not begin one. -/
def hostLength (inBrackets : Bool) : List Char → Nat
  | [] => 0
  | c :: cs =>
    if c == ':' && !inBrackets then 0
    else hostLength (if c == '[' then true else if c == ']' then false else inBrackets) cs + 1

/-- The largest port. -/
def maxPort : Nat := 65535

/-- Reads the digits of a port; without digits there is none. -/
def port? (digits : List Char) : Except UrlFault (Option Nat) :=
  if digits.isEmpty then .ok none
  else
    match readDigits? 10 digits with
    | some n => if n ≤ maxPort then .ok (some n) else .error .badPort
    | none => .error .badPort

/-- The number of characters of the authority in front of a path. Where hosts are just text a
backslash is no slash, but it ends a port. -/
def authorityLength (m : Manner) (cs : List Char) : Nat :=
  let upToSlash := cs.takeWhile (!m.isSlash ·)
  let hostAndPort := (cutLast '@' upToSlash).2
  let port := hostAndPort.drop (hostLength false hostAndPort)
  upToSlash.length - (port.dropWhile (· != '\\')).length

/-- Reads what stands behind two slashes, up to the path. `isEnd` tells that the address ends
there. -/
def readAuthority (m : Manner) (cs : List Char) (isEnd : Bool) :
    Except UrlFault UrlAuthority := do
  let (userinfo, hostAndPort) := cutLast '@' cs
  if userinfo == some [] && hostAndPort.isEmpty && !isEnd then throw .emptyHost
  let known := readUser (userinfo.getD [])
  let hostText := hostAndPort.take (hostLength false hostAndPort)
  let portText := hostAndPort.drop hostText.length
  let host ← match m with
    | .other => textHost hostText
    | _ => if hostText.isEmpty then throw .emptyHost else some <$> networkHost hostText
  if host.isNone && !portText.isEmpty then throw .emptyHost
  let port ← port? (portText.drop 1)
  if host.isNone && known.credentials != "" then throw .emptyHost
  let usual : Option Nat := match m with
    | .network usual => some usual
    | _ => none
  return { known with host, port := if port = usual then none else port }

/-- Reads an address with an authority. -/
def withAuthority (m : Manner) (scheme : String) (t : Tail) : Except UrlFault Url := do
  let length := authorityLength m t.body
  let path := t.body.drop length
  let isEnd := path.isEmpty && t.query.isNone && t.fragment.isNone
  let a ← readAuthority m (t.body.take length) isEnd
  return t.finish scheme (some a) (normalPath m path)

/-! ## Files -/

/-- The path of a file. A drive at its front is written with a colon, and slashes at the front
are one. -/
def filePath (cs : List Char) : List Char :=
  let pieces := match steps .file (dropSlash .file cs) with
    | drive :: rest =>
      (if isDrive [':', '|'] drive then drive.take 1 ++ [':'] else drive) :: rest
    | [] => []
  '/' :: (joinSteps (resolve .file [] pieces)).dropWhile (· == '/')

/-- The path of a file begins with a drive. -/
def beginsWithDrive (cs : List Char) : Bool :=
  (steps .file (dropSlash .file cs)).head?.any (isDrive [':', '|'])

/-- Reads the address of a file. The local host is none, and there is none before a drive. -/
def file (t : Tail) : Except UrlFault Url := do
  let finish (host : Option UrlHost) (path : List Char) : Url :=
    t.finish "file" (some { host }) (filePath path)
  match t.body with
  | a :: b :: rest =>
    if Manner.file.isSlash a && Manner.file.isSlash b then
      let hostText := rest.takeWhile (!Manner.file.isSlash ·)
      if isDrive [':', '|'] hostText || hostText.isEmpty then return finish none rest
      else
        let path := rest.drop hostText.length
        let host ← networkHost hostText
        return finish
          (if host = .name "localhost" || beginsWithDrive path then none else some host) path
    else return finish none t.body
  | _ => return finish none t.body

/-! ## Addresses -/

/-- Reads an address. -/
def parse (text : String) : Except UrlFault Url :=
  match scheme? (cleaned text.toList) with
  | none => .error .relative
  | some (scheme, rest) =>
    match manner scheme, rest with
    | .file, rest => file (tail rest)
    | .network port, rest =>
      -- any number of slashes leads to the authority
      let m := Manner.network port
      withAuthority m scheme (tail (rest.dropWhile m.isSlash))
    | .other, '/' :: '/' :: rest => withAuthority .other scheme (tail rest)
    | .other, rest =>
      let t := tail rest
      let path := if t.body.head? = some '/' then normalPath .other t.body
        else percentEncode standsInOpaque t.body
      .ok (t.finish scheme none path)

end Url

end ReleasePipeline
