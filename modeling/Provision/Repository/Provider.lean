import Provision.Provider.Dispatch
import Provision.Repository.Properties
import Provision.Repository.Service

/-!
# The repository provider

Repositories can be read and nothing else. What goes wrong on the way to the service or in its
answer is an error of the resource; a fault is only what the template itself gets wrong.
-/

namespace Provision.Repository

/-- The key of the provider. -/
def key : ProviderKey := ⟨"Github", "0.0.1"⟩

/-- The type of repositories. -/
def repositoryType : String := "Repository"

/-- The setting that holds the credential. -/
def tokenKey : String := "token"

/-- What is accepted as an answer. -/
def acceptedType : String := "application/vnd.github+json"

/-- Whether a text can be written in a header. -/
def isHeaderText (s : String) : Bool :=
  s.toList.all fun c => c = '\t' || (0x20 ≤ c.toNat && c.toNat ≠ 0x7F)

/-- The longest URL that a request can be made for. -/
def longestTarget : Nat := 65534

/-- Whether a character of a host may not stand in a request. -/
def isBarredFromHost (c : Char) : Bool :=
  c = '"' || c = '{' || c = '}' || c.toNat = 0x60

/-- Whether a request can be made for a URL. -/
def isTarget (url : Url) : Bool :=
  (url.scheme = "http" || url.scheme = "https") &&
    !(url.host.getD "").toList.any isBarredFromHost && url.text.utf8ByteSize ≤ longestTarget

/-- The message that asks for a repository, or why there is none. -/
def Service.message (s : Service) (token : String) (r : RepositoryRequest) :
    Except RepositoryFault Message := do
  if !isHeaderText s.userAgent then throw (.client .header)
  let url ← s.repositoryUrl r.owner r.name
  let url := url.withoutCredentials
  if !isHeaderText token then throw (.transport .header)
  if !isTarget url then throw (.transport (.target url))
  .ok ⟨url, acceptedType, "Bearer " ++ token, s.userAgent⟩

/-- The message in the answer of a service that failed, else its status. -/
def failureMessage (r : Reply) : String :=
  match Json.parse r.text with
  | .ok j => ((j.member? "message").bind Json.text?).getD ("HTTP " ++ toString r.status)
  | .error _ => "HTTP " ++ toString r.status

/-- What an answer says about the repository. -/
def readReply (r : Reply) : Except RepositoryFault Json :=
  if r.isSuccess then (Json.parse r.text).mapError fun e => .invalidBody e.message
  else .error (.status r.status (failureMessage r))

/-- What became of a message that asked for a repository. -/
def readDelivery (m : Message) (d : Delivery) : Except RepositoryFault Json :=
  match d.reply with
  | none => .error (.transport (.sending m.url))
  | some r => readReply r

/-- The answer of the provider for what became of the message. -/
def conclude (resourceType target : String) : Except RepositoryFault Json → CallResult
  | .ok j => .ok (.succeeded ⟨resourceType, j⟩)
  | .error f => .ok (.failure ⟨resourceType, f.message, target⟩)

/-- Credential and repository of a request, or the fault that refuses it. -/
def readRequest (r : OperationRequest) : Except ProviderFault (String × RepositoryRequest) :=
  match r.configText? tokenKey with
  | none =>
    .error (.configuration
      ("import config for " ++ key.name ++ " requires a string '" ++ tokenKey ++ "'"))
  | some token =>
    match r.read RepositoryRequest.shape with
    | .error e => .error (.invalidProperties r.resourceType e.message)
    | .ok body => .ok (token, body)

/-- Reads a repository. -/
def getRepository (service : Service) (carry : Carrier σ) : Handler σ := fun r =>
  match readRequest r with
  | .error f => pure (.fault f)
  | .ok (token, body) =>
    let finish (duration : Option Nat) (effects : List Effect)
        (outcome : Except RepositoryFault Json) : Call :=
      ⟨duration, conclude r.resourceType body.target outcome, true, false, effects⟩
    match service.message token body with
    | .error f => pure (finish (some 0) [] (.error f))
    | .ok message => do
      let delivery := (← carry message).within service.timeout
      pure (finish delivery.duration [.exchange message] (readDelivery message delivery))

/-- The handlers of reads. -/
def reads (service : Service) (carry : Carrier σ) : DispatchTable σ :=
  (DispatchTable.new .get).on repositoryType (getRepository service carry)

/-- The provider of a service, with somebody to carry its messages. -/
def provider (service : Service) (carry : Carrier σ) : Provider σ where
  name := key.name
  invoke o :=
    match o with
    | .get => (reads service carry).dispatch key.name
    | .save | .previewSave | .delete => Provider.refusing key.name o

end Provision.Repository
