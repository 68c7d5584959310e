import Provision.Json.Shape
import Provision.Text.Inspect

/-!
# Provider keys

A provider is registered under its name and version. Keys are ordered by name, then by version, both
in code point order.
-/

namespace Provision

/-- The name and version under which a provider is registered; both count to the letter. -/
structure ProviderKey where
  name : String
  version : String
  deriving DecidableEq, Repr

namespace ProviderKey

/-- The key as people write it. -/
def label (k : ProviderKey) : String := k.name ++ "@" ++ k.version

/-- The order of keys. -/
def compare (a b : ProviderKey) : Ordering :=
  (Ord.compare a.name b.name).then (Ord.compare a.version b.version)

/-- Whether `a` is not after `b`. -/
def le (a b : ProviderKey) : Bool := (compare a b).isLE

/-- Keys in ascending order. -/
def sorted (keys : List ProviderKey) : List ProviderKey := keys.mergeSort le

/-- How a key stands in Json. -/
def shape : Json.Shape ProviderKey :=
  .record "ProviderKey"
    (.required "name" .string <| .required "version" .string .done)
    (fun (name, version, _) => .ok ⟨name, version⟩)
    fun k => (k.name, k.version, ())

/-- The key in diagnostics. -/
def inspect (k : ProviderKey) : String :=
  Text.inspectRecord "ProviderKey" [("name", Text.quoted k.name), ("version", Text.quoted k.version)]

end ProviderKey

end Provision
