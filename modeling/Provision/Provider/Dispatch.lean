import Provision.Provider.Basic
import Provision.Text.Inspect

/-!
# Dispatch tables

A dispatch table holds the handlers of one operation by resource type. A type is looked up to the
letter; a type without a handler is not supported.
-/

namespace Provision

/-- The handlers of one operation by resource type. -/
structure DispatchTable (σ : Type) where
  operation : Operation
  handlers : Dictionary String (Handler σ)

namespace DispatchTable

/-- The table without handlers. -/
def new (operation : Operation) : DispatchTable σ := ⟨operation, ∅⟩

/-- The table with a handler for a type, in place of the one that it had. -/
def on (t : DispatchTable σ) (type : String) (handler : Handler σ) : DispatchTable σ :=
  { t with handlers := t.handlers.insert type handler }

/-- Whether a type has a handler. -/
def supports (t : DispatchTable σ) (type : String) : Bool := t.handlers.contains type

/-- The types that have a handler, in ascending order. -/
def resourceTypes (t : DispatchTable σ) : List String := t.handlers.keys.mergeSort (· ≤ ·)

/-- What a provider does with a request: what the handler of its type does. -/
def dispatch (t : DispatchTable σ) (provider : String) : Handler σ := fun r =>
  match t.handlers.get? r.resourceType with
  | some handler => handler r
  | none => Provider.refusing provider t.operation r

/-- The table in diagnostics. -/
def inspect (t : DispatchTable σ) : String :=
  Text.inspectRecord "DispatchTable"
    [("operation", t.operation.name),
      ("resource_types", Text.inspectList (t.resourceTypes.map Text.quoted))]

end DispatchTable

end Provision
