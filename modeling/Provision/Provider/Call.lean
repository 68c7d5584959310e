import Provision.Contract.Request
import Provision.Contract.Response
import Provision.Provider.Fault
import Provision.Repository.Exchange

/-!
# Calls

How one call of a provider plays out on a clock that counts milliseconds, next to a token that may
be cancelled. A call tells beforehand how long it takes and how it ends when nothing interferes;
`Call.endsAt` and `Call.outcomeFrom` tell what happens when the token is cancelled.

A token that is cancelled at an instant counts as cancelled later than that instant, not at it: what
is done at the instant itself is done before. A token cancelled before the clock starts always
counts.
-/

namespace Provision

/-- The answer to a call, or why there is none. -/
abbrev CallResult := Except ProviderFault OperationResponse

/-- Something that a call does to the outside world. -/
inductive Effect where
  /-- A script is handed to the shell. -/
  | script (text : String)
  /-- A message is sent. -/
  | exchange (message : Message)

/-- When a token is cancelled. -/
inductive Cancellation where
  | never
  | already
  | after (instant : Nat)
  deriving DecidableEq, Repr

namespace Cancellation

/-- Whether the token counts as cancelled at an instant. -/
def holds : Cancellation → Nat → Bool
  | never, _ => false
  | already, _ => true
  | after t, now => t < now

/-- When work that goes on from `start` to `stop` is cut short, if it is. -/
def cuts : Cancellation → Nat → Option Nat → Option Nat
  | never, _, _ => none
  | already, start, _ => some start
  | after t, start, stop => if stop.all (t < ·) then some (max start t) else none

end Cancellation

/-- How a call plays out. -/
structure Call where
  /-- How long it takes; none if it never ends of itself. -/
  duration : Option Nat
  /-- How it ends of itself. -/
  result : CallResult
  /-- Whether it ends when the token is cancelled. -/
  heeds : Bool
  /-- Whether it cancels the token as it starts. -/
  trips : Bool
  /-- What it does to the outside world as it starts. -/
  effects : List Effect

namespace Call

/-- A call that ends at once. -/
def answer (result : CallResult) : Call := ⟨some 0, result, false, false, []⟩

/-- A call that ends at once with a fault. -/
def fault (f : ProviderFault) : Call := answer (.error f)

/-- When a call that starts at `start` ends of itself. -/
def stop (c : Call) (start : Nat) : Option Nat := c.duration.map (start + ·)

/-- When a call on its own, started at `start`, is cut short. -/
def cutAt (c : Call) (token : Cancellation) (start : Nat) : Option Nat :=
  if c.heeds then token.cuts start (c.stop start) else none

/-- When a call on its own ends. -/
def endsAt (c : Call) (token : Cancellation) (start : Nat) : Option Nat :=
  (c.cutAt token start).or (c.stop start)

/-- How a call on its own ends. -/
def outcomeFrom (c : Call) (token : Cancellation) (start : Nat) : CallResult :=
  if (c.cutAt token start).isSome then .error .cancelled else c.result

end Call

end Provision
