import Provision.Dictionary
import Provision.Provider.Fault

/-!
# Provider registries

A registry holds factories by key. The instance of a key is built when the key is first resolved and
kept until the key is registered again. `built` lists the keys whose instances were built, in order,
and the place in this list is the serial number of an instance.
-/

namespace Provision

/-- A provider as built, with its serial number. -/
structure Instance (π : Type) where
  serial : Nat
  provider : π

/-- How the provider of a key is built, and its instance once it is. A factory is told the serial
number of the instance. -/
structure Registration (π : Type) where
  factory : Nat → π
  instance? : Option (Instance π)

/-- The registrations by key, and the keys of the instances built so far. -/
structure Registry (π : Type) where
  registrations : Dictionary ProviderKey (Registration π)
  built : List ProviderKey

namespace Registry

/-- The registry without registrations. -/
def empty : Registry π := ⟨∅, []⟩

instance : EmptyCollection (Registry π) := ⟨empty⟩

/-- The registry with a factory for a key, in place of the one that it had and of its instance. -/
def register (g : Registry π) (key : ProviderKey) (factory : Nat → π) : Registry π :=
  { g with registrations := g.registrations.insert key ⟨factory, none⟩ }

/-- The instance of a key, built now if it is not there yet. -/
def resolve (g : Registry π) (key : ProviderKey) :
    Except ProviderFault (Instance π) × Registry π :=
  match g.registrations.get? key with
  | none => (.error (.notFound key), g)
  | some ⟨_, some i⟩ => (.ok i, g)
  | some ⟨factory, none⟩ =>
    let serial := g.built.length + 1
    let i : Instance π := ⟨serial, factory serial⟩
    (.ok i, ⟨g.registrations.insert key ⟨factory, some i⟩, g.built ++ [key]⟩)

/-- Whether a key is registered. -/
def contains (g : Registry π) (key : ProviderKey) : Bool := g.registrations.contains key

/-- The registered keys in ascending order. -/
def keys (g : Registry π) : List ProviderKey := ProviderKey.sorted g.registrations.keys

/-- The number of registered keys. -/
def size (g : Registry π) : Nat := g.registrations.size

/-- The registry in diagnostics. -/
def inspect (g : Registry π) : String :=
  Text.inspectRecord "ProviderRegistry"
    [("keys", Text.inspectList (g.keys.map ProviderKey.inspect))]

end Registry

end Provision
