import Provision.Contract.Response

/-!
# Reports

What a caller learns of one deployment: its state and outputs, and the state of every operation,
with an error where there is one.
-/

namespace Provision

/-- The deployment as a whole. -/
structure DeploymentReport where
  provisioningState : String
  outputs : Table Json
  error : Option OperationError

namespace DeploymentReport

/-- How the section stands in Json. -/
def shape : Json.Shape DeploymentReport :=
  .record "DeploymentReport"
    (.required "provisioningState" .string <|
      .required "outputs" (.table .any) <|
      .sparse "error" OperationError.shape .done)
    (fun (state, outputs, error, _) => .ok ⟨state, outputs, error⟩)
    fun r => (r.provisioningState, r.outputs, r.error, ())

end DeploymentReport

/-- One operation. -/
structure OperationReport where
  resourceName : String
  provisioningState : String
  error : Option OperationError
  deriving DecidableEq

namespace OperationReport

/-- How the section stands in Json. -/
def shape : Json.Shape OperationReport :=
  .record "OperationReport"
    (.required "resourceName" .string <|
      .required "provisioningState" .string <|
      .sparse "error" OperationError.shape .done)
    (fun (name, state, error, _) => .ok ⟨name, state, error⟩)
    fun r => (r.resourceName, r.provisioningState, r.error, ())

/-- Whether the operation failed, that is, whether an error is reported. -/
def failed (r : OperationReport) : Bool := r.error.isSome

end OperationReport

/-- The report of one deployment. -/
structure Report where
  deployment : DeploymentReport
  /-- The operations in the order in which they ran. -/
  operations : List OperationReport

namespace Report

/-- How a report stands in Json. -/
def shape : Json.Shape Report :=
  .record "Report"
    (.required "deployment" DeploymentReport.shape <|
      .required "operations" (.list OperationReport.shape) .done)
    (fun (deployment, operations, _) => .ok ⟨deployment, operations⟩)
    fun r => (r.deployment, r.operations, ())

/-- The operations that failed. -/
def failedOperations (r : Report) : List OperationReport :=
  r.operations.filter OperationReport.failed

end Report

end Provision
