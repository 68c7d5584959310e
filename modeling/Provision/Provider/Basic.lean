import Provision.Provider.Call

/-!
# Providers

A provider has a name and answers operations on resources. What it does may depend on the state `σ`
of the world outside, which its calls change.
-/

namespace Provision

/-- What becomes of a request, given the world. -/
abbrev Handler (σ : Type) := OperationRequest → StateM σ Call

/-- A named way to answer operations. -/
structure Provider (σ : Type) where
  name : String
  invoke : Operation → Handler σ

namespace Provider

/-- The handler of everything that a provider does not offer. -/
def refusing (name : String) (operation : Operation) : Handler σ := fun r =>
  pure (.fault (.notSupported name operation r.resourceType))

/-- The provider that offers nothing. -/
def bare (name : String) : Provider σ := ⟨name, refusing name⟩

/-- The provider that offers one operation. -/
def offering (name : String) (operation : Operation) (handler : Handler σ) : Provider σ where
  name := name
  invoke o := if o = operation then handler else refusing name o

/-- The provider that reads a resource of any type, without properties, and offers nothing else. -/
def readOnly (name : String) : Provider σ :=
  offering name .get fun r => pure (.answer (.ok (.succeeded (.bare r.resourceType))))

end Provider

end Provision
