import Provision.Contract.State

/-!
# Deployment results

What an engine records of one deployment. Results of other engines are read too, so states are free
text and error envelopes are any Json.
-/

namespace Provision

/-- An output with its declared type. -/
structure DeploymentOutput where
  outputType : Option String
  value : Json
  deriving DecidableEq

namespace DeploymentOutput

/-- How an output stands in Json. -/
def shape : Json.Shape DeploymentOutput :=
  .record "DeploymentOutput"
    (.sparse "type" .string <| .defaulted "value" .any .null .done)
    (fun (type, value, _) => .ok ⟨type, value⟩)
    fun o => (o.outputType, o.value, ())

end DeploymentOutput

/-- One operation as recorded. -/
structure OperationRecord where
  resourceName : String
  state : Option String
  /-- The status envelope, which may hold an error. -/
  status : Option Json
  deriving DecidableEq

namespace OperationRecord

/-- How a record stands in Json. -/
def shape : Json.Shape OperationRecord :=
  .record "OperationRecord"
    (.required "resourceSymbolicName" .string <|
      .defaulted "state" (.optional .string) none <|
      .defaulted "operationStatus" (.optional .any) none .done)
    (fun (name, state, status, _) => .ok ⟨name, state, status⟩)
    fun r => (r.resourceName, r.state, r.status, ())

end OperationRecord

/-- Everything that an engine records of one deployment. -/
structure DeploymentResult where
  state : Option String
  outputs : Option (Table DeploymentOutput)
  /-- The error envelope of the deployment as a whole. -/
  error : Option Json
  /-- The operations in the order in which they ran. -/
  operations : List OperationRecord

namespace DeploymentResult

/-- How a result stands in Json. -/
def shape : Json.Shape DeploymentResult :=
  .record "DeploymentResult"
    (.defaulted "deploymentState" (.optional .string) none <|
      .defaulted "outputs" (.optional (.table DeploymentOutput.shape)) none <|
      .defaulted "deploymentError" (.optional .any) none <|
      .defaulted "operations" (.list OperationRecord.shape) [] .done)
    (fun (state, outputs, error, operations, _) => .ok ⟨state, outputs, error, operations⟩)
    fun r => (r.state, r.outputs, r.error, r.operations, ())

end DeploymentResult

end Provision
