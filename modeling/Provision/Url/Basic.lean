/-!
# URLs

A URL in its parts, each written as it stands in the text of the URL. The path of most schemes is a
list of segments, each written after a slash; the path of the others is one text that nothing can be
added to.
-/

namespace Provision

/-- The path of a URL. -/
inductive Url.Path where
  /-- One text without structure. -/
  | whole (text : String)
  | segments (list : List String)
  deriving DecidableEq, Repr

/-- The text of a path. -/
def Url.Path.text : Url.Path → String
  | whole text => text
  | segments list => String.join (list.map ("/" ++ ·))

/-- A URL in its parts. -/
structure Url where
  scheme : String
  user : String
  password : Option String
  host : Option String
  port : Option Nat
  /-- Whether a dot stands before the path, which could be taken for a host otherwise. -/
  guarded : Bool
  path : Url.Path
  query : Option String
  fragment : Option String
  deriving DecidableEq, Repr

namespace Url

/-- The schemes that have a host and a path with segments. -/
def isSpecialScheme (scheme : String) : Bool :=
  ["http", "https", "ws", "wss", "ftp", "file"].contains scheme

/-- The port that a scheme has when none is written. -/
def defaultPort? (scheme : String) : Option Nat :=
  match scheme with
  | "http" | "ws" => some 80
  | "https" | "wss" => some 443
  | "ftp" => some 21
  | _ => none

/-- User name and password before the host. -/
def credentials (u : Url) : String :=
  match u.password with
  | some p => u.user ++ ":" ++ p ++ "@"
  | none => if u.user.isEmpty then "" else u.user ++ "@"

/-- Host and port, with the credentials. -/
def authority (u : Url) : String :=
  u.credentials ++ u.host.getD "" ++
    match u.port with
    | some p => ":" ++ toString p
    | none => ""

/-- What is written before the path. -/
def beforePath (u : Url) : String :=
  u.scheme ++ ":" ++ (if u.host.isSome then "//" ++ u.authority else "") ++
    (if u.guarded then "/." else "")

/-- What is written after the path. -/
def afterPath (u : Url) : String :=
  (u.query.map ("?" ++ ·)).getD "" ++ (u.fragment.map ("#" ++ ·)).getD ""

/-- The text of a URL. -/
def text (u : Url) : String := u.beforePath ++ u.path.text ++ u.afterPath

/-- Path and query, as a request names them. -/
def requestTarget (u : Url) : String := u.path.text ++ (u.query.map ("?" ++ ·)).getD ""

/-- The URL without user name and password. -/
def withoutCredentials (u : Url) : Url := { u with user := "", password := none }

end Url

/-- Why a text is no URL. -/
inductive UrlFault where
  | relativeWithoutBase
  | emptyHost
  | invalidPort
  | invalidIpv4
  | invalidIpv6
  | invalidInternationalName
  | invalidDomainCharacter
  deriving DecidableEq, Repr

/-- The text of a fault. -/
def UrlFault.message : UrlFault → String
  | relativeWithoutBase => "relative URL without a base"
  | emptyHost => "empty host"
  | invalidPort => "invalid port number"
  | invalidIpv4 => "invalid IPv4 address"
  | invalidIpv6 => "invalid IPv6 address"
  | invalidInternationalName => "invalid international domain name"
  | invalidDomainCharacter => "invalid domain character"

end Provision
