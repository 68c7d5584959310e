import Provision.Provider.Dispatch
import Provision.Timer
import Provision.Utility.Script

/-!
# The utility provider

Waits, assertions and scripts. All three can be saved; a wait and an assertion can be previewed,
which does nothing; a script cannot be, since nobody knows what it would do. A condition that does
not hold is an error of the resource, not a fault.
-/

namespace Provision.Utility

/-- The key of the provider. -/
def key : ProviderKey := ⟨"Utils", "0.0.1"⟩

/-- The type of waits. -/
def waitType : String := "Wait"

/-- The type of assertions. -/
def assertType : String := "Assert"

/-- The type of scripts. -/
def scriptType : String := "BashScript"

/-- The code of the error that reports a condition that does not hold. -/
def assertionFailed : String := "AssertionFailed"

/-- A success that leaves the resource without properties. -/
def plainSuccess (r : OperationRequest) : CallResult := .ok (.succeeded (.bare r.resourceType))

/-- The properties of a request, or the fault that refuses them. -/
def properties (s : Json.Shape α) (r : OperationRequest) : Except ProviderFault α :=
  (r.read s).mapError fun e => .invalidProperties r.resourceType e.message

/-- What becomes of a request whose properties have a shape. -/
def withProperties (s : Json.Shape α) (r : OperationRequest) (call : α → Call) : Call :=
  match properties s r with
  | .ok a => call a
  | .error f => .fault f

/-- Previews nothing. -/
def preview (r : OperationRequest) : Call := .answer (plainSuccess r)

/-- Lets time pass, as long as a timer can run. -/
def wait (r : OperationRequest) : Call :=
  withProperties WaitRequest.shape r fun body =>
    ⟨some (min body.milliseconds.toNat longestTimer), plainSuccess r, true, false, []⟩

/-- How an assertion ends. -/
def assertion (r : OperationRequest) (body : AssertRequest) : CallResult :=
  if body.condition then plainSuccess r
  else .ok (.failure ⟨assertionFailed, "Assertion '" ++ body.name ++ "' failed!", ""⟩)

/-- Insists on a condition. -/
def assert (r : OperationRequest) : Call :=
  withProperties AssertRequest.shape r fun body => .answer (assertion r body)

/-- How a script resource ends when the script has. -/
def scriptResult (r : OperationRequest) : Except ScriptFault RunScriptResponse → CallResult
  | .ok output => .ok (.succeeded ⟨r.resourceType, RunScriptResponse.shape.toJson output⟩)
  | .error f => .error f.toProviderFault

/-- Runs a script. -/
def runScript (runner : Runner) (r : OperationRequest) : Call :=
  withProperties RunScriptRequest.shape r fun body =>
    let run := runner body.script
    ⟨run.duration, scriptResult r run.result, run.heeds, false, [.script body.script]⟩

/-- The handlers of previews. -/
def previews : DispatchTable σ :=
  (DispatchTable.new .previewSave).on waitType (fun r => pure (preview r))
    |>.on assertType fun r => pure (preview r)

/-- The handlers of saves. -/
def saves (runner : Runner) : DispatchTable σ :=
  (DispatchTable.new .save).on waitType (fun r => pure (wait r))
    |>.on assertType (fun r => pure (assert r))
    |>.on scriptType fun r => pure (runScript runner r)

/-- The resource types of an operation, in ascending order. -/
def resourceTypes (o : Operation) : List String :=
  match o with
  | .previewSave => (previews (σ := Unit)).resourceTypes
  | .save => (saves (σ := Unit) (Runner.fixed (.error .cancelled))).resourceTypes
  | .get | .delete => []

/-- The provider, with a runner for its scripts. -/
def provider (runner : Runner) : Provider σ where
  name := key.name
  invoke o :=
    match o with
    | .previewSave => previews.dispatch key.name
    | .save => (saves runner).dispatch key.name
    | .get | .delete => Provider.refusing key.name o

end Provision.Utility
