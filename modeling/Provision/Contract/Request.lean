import Provision.Dictionary
import Provision.Json.Inspect
import Provision.Json.Shape

/-!
# Operation requests

A request names a resource type and carries the properties of the resource and the settings of its
import. Settings may be credentials, so diagnostics show their names only.
-/

namespace Provision

/-- What stands for every setting in diagnostics. -/
def redaction : String := "[REDACTED]"

/-- The names of the settings in ascending order, each with `redaction` for its value. -/
def redacted (config : Dictionary String Json) : Table String :=
  Table.ofList (config.keys.map fun key => (key, redaction))

/-- The diagnostic text of settings. -/
def inspectConfig (config : Dictionary String Json) : String :=
  Text.inspectMap ((redacted config).entries.map fun e => (e.1, Text.quoted e.2))

/-- One operation on one resource. -/
structure OperationRequest where
  resourceType : String
  properties : Json
  importConfig : Dictionary String Json

namespace OperationRequest

/-- A request without settings. -/
def new (resourceType : String) (properties : Json) : OperationRequest :=
  ⟨resourceType, properties, ∅⟩

/-- The request with other settings. -/
def withImportConfig (r : OperationRequest) (config : Dictionary String Json) : OperationRequest :=
  { r with importConfig := config }

/-- The request with one setting more, or another value for one that it has. -/
def withConfigValue (r : OperationRequest) (key : String) (value : Json) : OperationRequest :=
  { r with importConfig := r.importConfig.insert key value }

/-- A setting that is a string. -/
def configText? (r : OperationRequest) (key : String) : Option String :=
  (r.importConfig.get? key).bind Json.text?

/-- The properties read as a value of a given shape. -/
def read (r : OperationRequest) (s : Json.Shape α) : Except Json.ReadError α :=
  s.ofJson r.properties

/-- How a request stands in Json. -/
def shape : Json.Shape OperationRequest :=
  .record "OperationRequest"
    (.required "resourceType" .string <|
      .required "resourceProperties" .any <|
      .defaulted "importConfig" (.view (.entries .any) Dictionary.ofList Dictionary.entries) ∅ <|
      .done)
    (fun (type, properties, config, _) => .ok ⟨type, properties, config⟩)
    fun r => (r.resourceType, r.properties, r.importConfig, ())

/-- The request in diagnostics. -/
def inspect (r : OperationRequest) : String :=
  Text.inspectRecord "OperationRequest"
    [("resource_type", Text.quoted r.resourceType),
      ("resource_properties", r.properties.inspect),
      ("import_config", inspectConfig r.importConfig)]

end OperationRequest

end Provision
