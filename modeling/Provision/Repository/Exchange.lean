import Provision.Url.Basic
import Provision.Text.Bytes

/-!
# Exchanges

A message to a service and the answer to it. Who carries messages is told by a `Carrier`, which may
change the state of the world. A `Mailbox` is the simplest world: the answers that one server will
give, in order, one for each message.
-/

namespace Provision

/-- A message that asks for a resource. -/
structure Message where
  url : Url
  /-- What is accepted as an answer. -/
  accept : String
  /-- Who asks. -/
  authorization : String
  /-- With what program. -/
  userAgent : String
  deriving DecidableEq, Repr

namespace Message

/-- The first line of the message as it is sent. -/
def line (m : Message) : String := "GET " ++ m.url.requestTarget ++ " HTTP/1.1"

end Message

/-- An answer of a service. -/
structure Reply where
  status : Nat
  body : List UInt8
  deriving DecidableEq, Repr

namespace Reply

/-- Whether the service did what it was asked. -/
def isSuccess (r : Reply) : Bool := 200 ≤ r.status && r.status < 300

/-- Whether an answer of that status has a body at all. -/
def hasBody (r : Reply) : Bool := !(r.status < 200 || r.status = 204 || r.status = 304)

/-- The text of the body. -/
def text (r : Reply) : String := if r.hasBody then Text.decodeMarked r.body else ""

end Reply

/-- What becomes of a message: how many milliseconds pass, or none if for ever, and the answer, if
there is one. -/
structure Delivery where
  duration : Option Nat
  reply : Option Reply

namespace Delivery

/-- A delivery as quick as can be; a message and its answer are never there at once. -/
def quick (reply : Option Reply) : Delivery := ⟨some 1, reply⟩

/-- The delivery for somebody who waits for a limited time only. -/
def within (limit : Nat) (d : Delivery) : Delivery :=
  if d.duration.any (· < limit) then d else ⟨some limit, none⟩

end Delivery

/-- Carries messages. -/
abbrev Carrier (σ : Type) := Message → StateM σ Delivery

/-- The carrier that gets nothing through. -/
def Carrier.disconnected : Carrier σ := fun _ => pure (.quick none)

/-- The answers that a server will give. -/
abbrev Mailbox := List Reply

/-- The carrier to one server, named by its host and port. -/
def Mailbox.carrier (server : String) : Carrier Mailbox := fun m replies =>
  if m.url.authority = server then
    match replies with
    | r :: rest => (.quick (some r), rest)
    | [] => (.quick none, [])
  else (.quick none, replies)

/-- The messages that a server with some answers receives of all that are sent. -/
def Mailbox.received (server : String) (replies : Mailbox) (sent : List Message) : List Message :=
  (sent.filter (·.url.authority = server)).take replies.length

end Provision
