import SplitterLaunch.Url.Host
import SplitterLaunch.Url.Path

/-! The URL of a node. Reading puts it into its normal form: scheme and host in lower case, no port where it
    is the usual one, no dots among the names of the path, and percent signs for what may not stand as it
    is. -/

namespace SplitterLaunch

/-- A URL in its normal form. Credentials stand before a sign of their own in front of the host. -/
structure Url where
  scheme : String
  credentials : String
  /-- The host and its port, or nothing where no slashes stand after the scheme. -/
  host : Option String
  path : String
  query : Option String
  fragment : Option String
deriving DecidableEq, Repr

namespace Url

/-- A part of a URL after a sign, if there is one. -/
def optionalText (sign : String) : Option String → String
  | some s => sign ++ s
  | none => ""

/-- What stands between scheme and path. A path must not be taken for a host. -/
def authorityText (u : Url) : String :=
  match u.host with
  | some host => "//" ++ (if u.credentials.isEmpty then "" else u.credentials ++ "@") ++ host
  | none => if u.path.toList.take 2 = ['/', '/'] then "/." else ""

def text (u : Url) : String :=
  u.scheme ++ ":" ++ u.authorityText ++ u.path ++ optionalText "?" u.query ++ optionalText "#" u.fragment

def isWeb (u : Url) : Bool := u.scheme == "http" || u.scheme == "https"

def lengthBound : Nat := 65534

def isSendable (u : Url) : Bool :=
  let host := (u.host.getD "").toList
  u.text.length ≤ lengthBound && !host.any (['"', '\x60', '\x7b', '\x7d'].contains ·)

def usualPort? (scheme : String) : Option Nat :=
  if scheme == "http" || scheme == "ws" then some 80
  else if scheme == "https" || scheme == "wss" then some 443
  else if scheme == "ftp" then some 21
  else none

/-- Whether URLs of the scheme always have a host. -/
def hasHost (scheme : String) : Bool := (usualPort? scheme).isSome

def fileScheme : String := "file"

/-- Whether the path or host ends at the character. -/
def endsPath (c : Char) : Bool := c == '?' || c == '#'

def isSlash (c : Char) : Bool := c == '/' || c == '\\'

/-- The text after its first character of the given kind. -/
def afterFirst? (mark : Char) (cs : List Char) : Option (List Char) :=
  match cs.dropWhile (· != mark) with
  | [] => none
  | _ :: rest => some rest

/-- The query and the fragment of a text, in which they come after the path. -/
def queryAndFragment (hosted : Bool) (cs : List Char) : Option String × Option String :=
  let shown (special : List Char) (part : List Char) : String := String.ofList (encode special part)
  let special := if hosted then hostedQuerySpecial else querySpecial
  ((afterFirst? '?' (cs.takeWhile (· != '#'))).map (shown special), (afterFirst? '#' cs).map (shown fragmentSpecial))

/-- The path in a text, as it is written. -/
def pathOf (cs : List Char) : List Char := cs.takeWhile fun c => !endsPath c

/-! ### Hosts with credentials and ports -/

/-- Splits what comes after two slashes into the authority and the rest. -/
def splitAuthority (hosted : Bool) (cs : List Char) : List Char × List Char :=
  let ends (c : Char) := c == '/' || endsPath c || (hosted && c == '\\')
  (cs.takeWhile fun c => !ends c, cs.dropWhile fun c => !ends c)

/-- Splits an authority at its last sign for credentials, if it has one. -/
def splitCredentials? (authority : List Char) : Option (List Char × List Char) :=
  if authority.contains '@' then
    let reversed := authority.reverse
    some (((reversed.dropWhile (· != '@')).drop 1).reverse, (reversed.takeWhile (· != '@')).reverse)
  else none

/-- Credentials in their normal form: a name, and after a colon a password unless it is empty. -/
def credentialsText (cs : List Char) : List Char :=
  let name := encode credentialsSpecial (cs.takeWhile (· != ':'))
  match afterFirst? ':' cs with
  | none => name
  | some [] => name
  | some password => name ++ ':' :: encode credentialsSpecial password

/-- Splits a host and what comes after the colon behind it; colons in square brackets belong to the host. -/
def splitPort : Bool → List Char → List Char × Option (List Char)
  | _, [] => ([], none)
  | inside, c :: cs =>
    if c == ':' && !inside then ([], some cs)
    else
      let (host, port) := splitPort (c == '[' || (inside && c != ']')) cs
      (c :: host, port)

/-- A port that is not the usual one, with its colon. -/
def portText (scheme : String) : Option (List Char) → Except Fault (List Char)
  | none => .ok []
  | some digits =>
    if digits.all Char.isDigit then
      let n := Numeral.value digits
      if 65535 < n then .error .badPort
      else if digits.isEmpty || usualPort? scheme == some n then .ok []
      else .ok (':' :: Numeral.decimal n)
    else .error .badPort

/-- The path after a host. A URL that always has a host always has a path. -/
def pathAfterHost (hosted : Bool) (written : List Char) : List Char :=
  if hosted then (Route.along true false ['/'] (if written.head?.any isSlash then written.drop 1 else written)).path
  else if written.isEmpty then []
  else (Route.along false false (if written.head? = some '/' then [] else ['/']) written).path

/-- Reads what comes after the two slashes. A backslash ends a port whatever the scheme. -/
def readAuthority (scheme : String) (cs : List Char) : Except Fault Url := do
  let hosted := hasHost scheme
  let (authority, rest) := splitAuthority hosted cs
  let (credentials, hostAndPort) := (splitCredentials? authority).getD ([], authority)
  if authority.head? = some '@' && hostAndPort.isEmpty && credentials.isEmpty && !rest.isEmpty then .error .emptyHost
  else
    let credentials := credentialsText credentials
    let (host, port) := splitPort false hostAndPort
    let rest := (port.getD []).dropWhile (· != '\\') ++ rest
    let port := port.map fun cs => cs.takeWhile (· != '\\')
    if host.isEmpty && (hosted || port.isSome) then .error .emptyHost
    else
      let host ← if hosted then namedHost host else opaqueHost host
      let port ← portText scheme port
      if host.isEmpty && !credentials.isEmpty then .error .emptyHost
      else
        let (query, fragment) := queryAndFragment hosted rest
        return { scheme, query, fragment
                 credentials := String.ofList credentials
                 host := some (String.ofList (host ++ port))
                 path := String.ofList (pathAfterHost hosted (pathOf rest)) }

/-! ### Files -/

/-- The host in front of a path of files, and the rest. The name of a drive is no host, and neither is this
    machine's own name. -/
def fileHost (cs : List Char) : Except Fault (Option (List Char) × List Char) := do
  let (host, rest) := splitAuthority true cs
  if isDrive host then return (none, cs)
  else if host.isEmpty then return (none, rest)
  else
    let host ← namedHost host
    return (if host = "localhost".toList then none else some host, rest)

def ofRoute (host : Option (List Char)) (r : Route) (cs : List Char) : Url :=
  let (query, fragment) := queryAndFragment true cs
  { scheme := fileScheme, credentials := "", query, fragment
    host := some (if r.onDrive then "" else String.ofList (host.getD []))
    path := String.ofList r.path }

/-- Reads what comes after the scheme of files and its colon. -/
def readFile (cs : List Char) : Except Fault Url :=
  match cs with
  | a :: b :: rest =>
    if isSlash a && isSlash b then do
      let (host, rest) ← fileHost rest
      let written := pathOf rest
      let written := if host.isSome && written.head?.any isSlash then written.drop 1 else written
      return ofRoute host (Route.along true true ['/'] written) rest
    else .ok (ofRoute none (Route.along true true (if isSlash a then [] else ['/']) (pathOf cs)) cs)
  | _ => .ok (ofRoute none (Route.along true true (if cs.head?.any isSlash then [] else ['/']) (pathOf cs)) cs)

/-! ### All URLs -/

def withoutHost (scheme : String) (path : List Char) (cs : List Char) : Url :=
  let (query, fragment) := queryAndFragment false cs
  { scheme, credentials := "", host := none, path := String.ofList path, query, fragment }

/-- Reads what comes after the scheme and its colon. -/
def readRest (scheme : String) (cs : List Char) : Except Fault Url :=
  if hasHost scheme then readAuthority scheme (cs.dropWhile isSlash)
  else if scheme == fileScheme then readFile cs
  else
    match cs with
    | '/' :: '/' :: rest => readAuthority scheme rest
    | '/' :: rest => .ok (withoutHost scheme (Route.along false false ['/'] (pathOf rest)).path rest)
    | rest => .ok (withoutHost scheme (encode [] (pathOf rest)) rest)

/-- Reads a URL. Control characters and spaces around it do not count, nor do tabs and line ends in it. -/
def read (s : String) : Except Fault Url :=
  let around (c : Char) := c.toNat ≤ 0x20
  let cs := ((s.toList.dropWhile around).reverse.dropWhile around).reverse
  let cs := cs.filter fun c => !(c == '\t' || c == '\n' || c == '\r')
  let scheme := cs.takeWhile fun c => c.isAlphanum || c == '+' || c == '-' || c == '.'
  match cs.head?, cs.dropWhile fun c => c.isAlphanum || c == '+' || c == '-' || c == '.' with
  | some first, ':' :: rest =>
    if first.isAlpha then readRest (String.ofList (scheme.map Char.toLower)) rest else .error .relative
  | _, _ => .error .relative

def areReadable (credentials : String) : Bool :=
  let name := credentials.toList.takeWhile (· != ':')
  let password := afterFirst? ':' credentials.toList
  (decode? name).isSome && (!name.isEmpty || (password.bind decode?).isSome)

/-- The URL as it is told of in reports: credentials are taken out of it if they denote texts. -/
def withoutCredentials (u : Url) : Url := if areReadable u.credentials then { u with credentials := "" } else u

end Url
end SplitterLaunch
