import Provision.Url.Parser

/-!
# The repository service

Where the service is reached and how it is asked for one repository. Owner and name become one
segment each of the path, so they cannot lead anywhere else.
-/

namespace Provision.Repository

/-- How the service is reached. -/
structure Service where
  /-- The URL under which it stands, without a slash at the end. -/
  baseUrl : String
  /-- How its clients call themselves. -/
  userAgent : String
  /-- How long to wait for an answer, in milliseconds. -/
  timeout : Nat
  deriving DecidableEq, Repr

/-- The public service. -/
def defaultBaseUrl : String := "https://api.github.com"

/-- The name that clients give themselves. -/
def defaultUserAgent : String := "localdeploy"

/-- How many seconds clients wait. -/
def defaultTimeoutSeconds : UInt64 := 30

namespace Service

/-- The public service. -/
def standard : Service := ⟨defaultBaseUrl, defaultUserAgent, defaultTimeoutSeconds.toNat * 1000⟩

/-- A text without slashes at its end. -/
def trimSlashes (s : String) : String :=
  String.ofList (s.toList.reverse.dropWhile (· = '/')).reverse

/-- The service at another URL. -/
def withBaseUrl (s : Service) (url : String) : Service := { s with baseUrl := trimSlashes url }

end Service

/-- Why a message could not be sent, or none came back. -/
inductive TransportFault where
  /-- A header cannot be written. -/
  | header
  /-- No request can be made for the URL. -/
  | target (url : Url)
  /-- The message did not get through. -/
  | sending (url : Url)
  deriving DecidableEq, Repr

/-- The text of a fault. -/
def TransportFault.message : TransportFault → String
  | header => "builder error"
  | target url => "builder error for url (" ++ url.text ++ ")"
  | sending url => "error sending request for url (" ++ url.text ++ ")"

/-- Why a repository could not be read. -/
inductive RepositoryFault where
  /-- The client cannot be set up. -/
  | client (f : TransportFault)
  | transport (f : TransportFault)
  /-- The service answered that it failed. -/
  | status (code : Nat) (message : String)
  /-- Owner and name do not lead to a URL. -/
  | invalidRepository (why : String)
  /-- The answer is not Json. -/
  | invalidBody (why : String)
  deriving DecidableEq, Repr

/-- The text of a fault. -/
def RepositoryFault.message : RepositoryFault → String
  | client f => "failed to build HTTP client: " ++ f.message
  | transport f => f.message
  | status _ message => message
  | invalidRepository why => "invalid repository: " ++ why
  | invalidBody why => "invalid response body: " ++ why

/-- Whether a name can be a segment of its own. -/
def isSegment (name : String) : Bool := !(name = "" || name = "." || name = "..")

/-- A name that is a segment, or the fault that refuses it. -/
def checkSegment (name : String) : Except RepositoryFault Unit :=
  if isSegment name then .ok ()
  else .error (.invalidRepository ("'" ++ name ++ "' is not a valid owner or repository name"))

/-- The URL of a repository. -/
def Service.repositoryUrl (s : Service) (owner name : String) : Except RepositoryFault Url := do
  checkSegment owner
  checkSegment name
  match Url.parse s.baseUrl with
  | .error f => .error (.invalidRepository ("invalid API base URL: " ++ f.message))
  | .ok base =>
    match base.extend? ["repos", owner, name] with
    | none =>
      .error (.invalidRepository ("API base URL '" ++ s.baseUrl ++ "' cannot carry a path"))
    | some url => .ok url

end Provision.Repository
