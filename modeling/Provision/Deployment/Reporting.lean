import Provision.Contract.Report
import Provision.Contract.Result
import Provision.Deployment.Envelope

/-!
# From results to reports

A report says of a result what a caller needs: states, outputs without their types, and errors out
of their envelopes. Operations keep their order. An envelope that cannot be understood is itself
reported as an error.
-/

namespace Provision

namespace DeploymentResult

/-- The state where an engine gave none. -/
def defaultState : String := "Failed"

/-- The code of the error that reports an envelope. -/
def invalidEnvelope : String := "InvalidErrorEnvelope"

/-- The error to report for what was found in an envelope. -/
def reportError : Except EnvelopeFault (Option OperationError) → Option OperationError
  | .ok e => e
  | .error f => some ⟨invalidEnvelope, f.message, ""⟩

end DeploymentResult

open DeploymentResult in
/-- The report of one operation. -/
def OperationRecord.report (r : OperationRecord) : OperationReport where
  resourceName := r.resourceName
  provisioningState := r.state.getD defaultState
  error := r.status.bind fun envelope => reportError (Envelope.operationError? envelope)

namespace DeploymentResult

/-- The outputs of a result without their types. -/
def outputValues (r : DeploymentResult) : Table Json :=
  match r.outputs with
  | none => ∅
  | some outputs => outputs.map DeploymentOutput.value

/-- The report of a result. -/
def report (r : DeploymentResult) : Report where
  deployment :=
    { provisioningState := r.state.getD defaultState
      outputs := r.outputValues
      error := r.error.bind fun envelope => reportError (Envelope.error? envelope) }
  operations := r.operations.map OperationRecord.report

end DeploymentResult

end Provision
