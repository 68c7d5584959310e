import Provision.Deployment.Plan
import Provision.Provider.Basic

/-!
# The sequential engine

The engine carries out the steps of a plan one after the other. A resource that fails does not stop
those after it; a cancelled token does, and with it the whole deployment.

`Run` tells what happened on the clock: which calls were started when, and how and when the run
ended.
-/

namespace Provision

/-- A call of a provider as it was started. -/
structure StartedCall (σ : Type) where
  step : Step (Provider σ)
  start : Nat
  call : Call

/-- How a run ended. -/
inductive RunEnd where
  /-- All steps were carried out. -/
  | finished (records : List OperationRecord)
  | cancelled
  deriving DecidableEq

/-- What happened in a run. -/
structure Run (σ : Type) where
  calls : List (StartedCall σ)
  ending : RunEnd
  /-- When it ended; none if it never does. -/
  instant : Option Nat
  /-- Whether a call cancelled the token. -/
  tripped : Bool

namespace Run

/-- The run with a call, and perhaps its record, before everything else. -/
def after (started : StartedCall σ) (record : Option OperationRecord) (r : Run σ) : Run σ :=
  { r with
    calls := started :: r.calls
    ending :=
      match r.ending, record with
      | .finished records, some record => .finished (record :: records)
      | ending, _ => ending
    tripped := started.call.trips || r.tripped }

end Run

namespace Engine

/-- The name of the engine. -/
def name : String := "sequential"

/-- The code of the error of a deployment in which a resource failed. -/
def deploymentFailed : String := "DeploymentFailed"

/-- An error in its envelope. -/
def envelope (error : Json) : Json := .object [("error", error)]

/-- The record of an operation that failed. -/
def failure (resource : String) (error : Json) : OperationRecord :=
  ⟨resource, some ProvisioningState.failed.name, some (envelope error)⟩

/-- The record of an operation; none if it was cancelled. -/
def record? (resource : String) : CallResult → Option OperationRecord
  | .ok (.succeeded _) => some ⟨resource, some ProvisioningState.succeeded.name, none⟩
  | .ok (.failed errors) => some (failure resource (OperationError.shape.toJson errors.first))
  | .error .cancelled => none
  | .error f =>
    some (failure resource (.object [("code", .string f.code), ("message", .string f.message)]))

/-- When the engine gives up a call that it started at `start`, with a token that was not cancelled
then. A call that cancels the token itself and ends at once has ended before. -/
def givesUpAt (c : Call) (token : Cancellation) (start : Nat) : Option Nat :=
  if c.trips then
    if c.duration = some 0 then none else some start
  else token.cuts start (c.stop start)

/-- The steps carried out from an instant on. -/
def run : List (Step (Provider σ)) → Cancellation → Nat → StateM σ (Run σ)
  | [], _, now => pure ⟨[], .finished [], some now, false⟩
  | s :: rest, token, now => do
    if token.holds now then return ⟨[], .cancelled, some now, false⟩
    let call ← s.target.provider.invoke s.operation s.request
    let started : StartedCall σ := ⟨s, now, call⟩
    let stopped (instant : Option Nat) : Run σ := ⟨[started], .cancelled, instant, call.trips⟩
    match givesUpAt call token now, call.stop now, record? s.name call.result with
    | some instant, _, _ => pure (stopped (some instant))
    | none, none, _ => pure (stopped none)
    | none, some stop, none => pure (stopped (some stop))
    | none, some stop, some record => do
      let r ← run rest (if call.trips then .already else token) stop
      pure (r.after started (some record))

/-- Whether a recorded operation did not succeed. -/
def isFailure (r : OperationRecord) : Bool := r.state ≠ some ProvisioningState.succeeded.name

/-- The error of a deployment in which some operations failed. -/
def deploymentError (failed total : Nat) : OperationError :=
  ⟨deploymentFailed,
    toString failed ++ " of " ++ toString total ++ " resource operations failed", ""⟩

/-- The result of a deployment, by its outputs and the records of its operations. -/
def conclude (outputs : Table DeploymentOutput) (records : List OperationRecord) :
    DeploymentResult :=
  let failed := records.countP isFailure
  if failed = 0 then ⟨some ProvisioningState.succeeded.name, some outputs, none, records⟩
  else
    ⟨some ProvisioningState.failed.name, none,
      some (envelope (OperationError.shape.toJson (deploymentError failed records.length))),
      records⟩

end Engine

/-- What became of a deployment: its result, the calls that were started, when it ended if it did,
and whether the token is cancelled then. -/
structure Deployment (σ : Type) where
  result : Except DeployFault DeploymentResult
  calls : List (StartedCall σ)
  instant : Option Nat
  cancelled : Bool

/-- Whether a token is cancelled when work ends. -/
def Cancellation.isCancelledBy (token : Cancellation) (instant : Option Nat) : Bool :=
  match token with
  | .never => false
  | .already => true
  | .after t => instant.all (t ≤ ·)

namespace Deployment

/-- A deployment that is over before it starts. -/
def instantly (token : Cancellation) (result : Except DeployFault DeploymentResult) :
    Deployment σ :=
  ⟨result, [], some 0, token.isCancelledBy (some 0)⟩

/-- The deployment that a run carries out. -/
def ofRun (token : Cancellation) (outputs : Table DeploymentOutput) (r : Run σ) : Deployment σ where
  result :=
    match r.ending with
    | .finished records => .ok (Engine.conclude outputs records)
    | .cancelled => .error .cancelled
  calls := r.calls
  instant := r.instant
  cancelled := r.tripped || token.isCancelledBy r.instant

end Deployment

/-- Carries out a deployment of two documents with the providers of a registry. -/
abbrev Orchestrator (σ : Type) :=
  Registry (Provider σ) → String → String → Cancellation → StateM σ (Deployment σ)

/-- Plans a deployment and carries out the plan. -/
def Engine.deploy (mode : Mode) : Orchestrator σ := fun g template parameters token =>
  match (Plan.make mode template parameters g).1 with
  | .error f => pure (.instantly token (.error f))
  | .ok plan => do
    let r ← Engine.run plan.steps token 0
    pure (.ofRun token plan.outputs r)

/-- The orchestrator that always has one result. -/
def Orchestrator.fixed (result : DeploymentResult) : Orchestrator σ := fun _ _ _ token =>
  pure (.instantly token (.ok result))

end Provision
