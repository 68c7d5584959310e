import Provision.Contract.Key
import Provision.Provider.Operation

/-!
# Provider faults

Why a provider, or the registry, could not answer at all. What can be expected to go wrong with a
resource is no fault: it is reported in the response.
-/

namespace Provision

/-- Why there is no answer. -/
inductive ProviderFault where
  /-- Nothing is registered under the key. -/
  | notFound (key : ProviderKey)
  /-- The provider does not offer the operation for the resource type. -/
  | notSupported (provider : String) (operation : Operation) (resourceType : String)
  /-- The properties do not have the shape that the resource type asks for. -/
  | invalidProperties (resourceType : String) (why : String)
  /-- The settings of the import are missing or wrong. -/
  | configuration (why : String)
  /-- The work could not be carried out. -/
  | executionFailed (why : String)
  /-- The work was cancelled. -/
  | cancelled
  deriving DecidableEq, Repr

namespace ProviderFault

/-- The short name of the kind of a fault. -/
def code : ProviderFault → String
  | notFound _ => "ProviderNotFound"
  | notSupported _ _ _ => "OperationNotSupported"
  | invalidProperties _ _ => "InvalidProperties"
  | configuration _ => "InvalidConfiguration"
  | executionFailed _ => "ExecutionFailed"
  | cancelled => "Cancelled"

/-- The text of a fault. -/
def message : ProviderFault → String
  | notFound key => "provider not found: " ++ key.label
  | notSupported provider operation type =>
    "operation " ++ operation.name ++ " is not supported by provider " ++ provider ++
      " for resource type '" ++ type ++ "'"
  | invalidProperties type why =>
    "invalid properties for resource type '" ++ type ++ "': " ++ why
  | configuration why => "invalid configuration: " ++ why
  | executionFailed why => "execution failed: " ++ why
  | cancelled => "operation cancelled"

/-- Whether the template asks for what the provider does not offer. -/
def isNotSupported : ProviderFault → Bool
  | notSupported _ _ _ => true
  | _ => false

end ProviderFault

end Provision
