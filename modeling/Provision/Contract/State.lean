import Provision.Json.Shape

/-!
# Provisioning states

The states that the sequential engine gives to deployments and operations. Other engines have
states of their own, so results and reports hold the names of states. In Json a state is a string,
or an object whose one member has its name and the value null.
-/

namespace Provision

/-- The state of a deployment or of an operation. -/
inductive ProvisioningState where
  | accepted
  | running
  | succeeded
  | failed
  | canceled
  deriving DecidableEq, Repr

namespace ProvisioningState

/-- All states, in the order of their progress. -/
def all : List ProvisioningState := [accepted, running, succeeded, failed, canceled]

/-- The name of a state. -/
def name : ProvisioningState → String
  | accepted => "Accepted"
  | running => "Running"
  | succeeded => "Succeeded"
  | failed => "Failed"
  | canceled => "Canceled"

/-- The state of that name, or the complaint about a name that no state has. -/
def ofName (s : String) : Except Json.Complaint ProvisioningState :=
  match all.find? (·.name = s) with
  | some state => .ok state
  | none => .error (.unknownVariant s (all.map name))

/-- A state as Json. -/
def toJson (s : ProvisioningState) : Json := .string s.name

open Json in
/-- The state of a Json value. -/
def ofJson (j : Json) : Except ReadError ProvisioningState :=
  let complain (c : Complaint) : ReadError := ⟨.complaint c, none⟩
  match j with
  | .string s => (ofName s).mapError complain
  | .object [(s, j)] =>
    match ofName s, j with
    | .error c, _ => .error (complain c)
    | .ok state, .null => .ok state
    | .ok _, j => .error (((Node.ofJson j).unexpected "unit").inValue)
  | .object _ => .error (complain (.invalidValue .map "map with a single key"))
  | j => .error (((Node.ofJson j).unexpected "string or map").inValue)

open Json in
/-- The state of a quoted name at a cursor, and the cursor after the name. -/
def readName (c : Cursor) : Except Refusal (ProvisioningState × Cursor) := do
  match readNode nesting c with
  | (.string span s, some after) =>
    let state ← (ofName s).mapError fun why => .complaint why (some span.stop)
    .ok (state, after)
  | (n, _) => .error (n.unexpected "variant identifier")

open Json in
/-- The state that a text holds between braces, with the cursor after the closing one. -/
def readMember (c : Cursor) : Except Refusal (ProvisioningState × Cursor) := do
  let (state, c) ← readName c
  let c ← orMishap (readColon c)
  match readNode nesting c with
  | (.null _, some after) =>
    let c := after.skipBlank
    match c.rest with
    | '}' :: _ => .ok (state, c.next)
    | [] => .error (.mishap (c.behind .eofObject))
    | _ => .error (.mishap (c.behind .expectedValue))
  | (n, _) => .error (n.unexpected "unit")

open Json in
/-- The state of a Json text. -/
def ofText (text : String) : Except ReadError ProvisioningState :=
  let read : Except Refusal ProvisioningState := do
    let c := (Cursor.ofString text).skipBlank
    let (state, c) ←
      match c.rest with
      | '{' :: _ => readMember c.next
      | '"' :: _ => readName c
      | [] => .error (.mishap (c.ahead .eofValue))
      | _ => .error (.mishap (c.ahead .expectedValue))
    match leftover? c with
    | some m => .error (.mishap m)
    | none => .ok state
  read.mapError (Refusal.inText text)

end ProvisioningState

end Provision
