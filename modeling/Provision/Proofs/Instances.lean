import Provision.Provider.Registry
import Provision.Proofs.Entries

/-!
# Instances of a registry

`Registry.Extends g h` says that `h` came from `g` by resolving keys: the registered keys and their
factories are the same, an instance that was there is still there, and one that is new was built by
the factory of its key. Resolving a key extends the registry and leaves it holding the instance that
it gave out (`resolve_ok`).
-/

namespace Provision

variable {π : Type}

/-- What may become of a registration when keys are resolved. -/
structure Registration.Extends (r r' : Registration π) : Prop where
  factory : r'.factory = r.factory
  kept : ∀ i, r.instance? = some i → r'.instance? = some i
  built : ∀ i, r.instance? = none → r'.instance? = some i → i.provider = r.factory i.serial

namespace Registration.Extends

variable {r r' r'' : Registration π}

theorem refl (r : Registration π) : r.Extends r where
  factory := rfl
  kept _ h := h
  built i h h' := by
    rw [h] at h'
    cases h'

theorem trans (h : r.Extends r') (h' : r'.Extends r'') : r.Extends r'' where
  factory := h'.factory.trans h.factory
  kept i hi := h'.kept i (h.kept i hi)
  built i hn hi := by
    cases hr : r'.instance? with
    | none => rw [h'.built i hr hi, h.factory]
    | some j =>
      obtain rfl : j = i := by simpa [h'.kept j hr] using hi
      exact h.built j hn hr

end Registration.Extends

namespace Registry

/-- What may become of a registry when keys are resolved. -/
def Extends (g h : Registry π) : Prop :=
  ∀ key, Option.Rel Registration.Extends (g.registrations.get? key) (h.registrations.get? key)

/-- The instance of a key, if it is there. -/
def instance? (g : Registry π) (key : ProviderKey) : Option (Instance π) :=
  (g.registrations.get? key).bind Registration.instance?

namespace Extends

variable {g h k : Registry π}

theorem refl (g : Registry π) : g.Extends g := by
  intro key
  cases g.registrations.get? key with
  | none => exact .none
  | some r => exact .some (.refl r)

theorem trans (hg : g.Extends h) (hh : h.Extends k) : g.Extends k := by
  intro key
  have h₁ := hg key
  have h₂ := hh key
  generalize g.registrations.get? key = x at h₁ ⊢
  generalize h.registrations.get? key = y at h₁ h₂
  generalize k.registrations.get? key = z at h₂ ⊢
  cases h₁ with
  | none => exact h₂
  | some e₁ =>
    cases h₂ with
    | some e₂ => exact .some (e₁.trans e₂)

theorem contains_eq (hg : g.Extends h) (key : ProviderKey) : h.contains key = g.contains key := by
  have hk := hg key
  unfold contains Dictionary.contains
  generalize g.registrations.get? key = x at hk ⊢
  generalize h.registrations.get? key = y at hk ⊢
  cases hk with
  | none => rfl
  | some _ => rfl

theorem instance?_eq {key : ProviderKey} {i : Instance π} (hg : g.Extends h)
    (hi : g.instance? key = some i) : h.instance? key = some i := by
  have hk := hg key
  unfold instance? at hi ⊢
  generalize g.registrations.get? key = x at hk hi
  generalize h.registrations.get? key = y at hk
  cases hk with
  | none => exact hi
  | some e => exact e.kept i hi

/-- What is true of all that a registration of the key gives out is true of the instance that the
key has later. -/
theorem of_instance? {P : π → Prop} {key : ProviderKey} {i : Instance π} (hg : g.Extends h)
    (hP : ∀ r, g.registrations.get? key = some r →
      (∀ serial, P (r.factory serial)) ∧ ∀ j, r.instance? = some j → P j.provider)
    (hi : h.instance? key = some i) : P i.provider := by
  have hk := hg key
  unfold instance? at hi
  cases hr : g.registrations.get? key with
  | none =>
    rw [hr] at hk
    generalize h.registrations.get? key = x at hk hi
    cases hk
    cases hi
  | some registration =>
    obtain ⟨hfactory, hinstance⟩ := hP registration hr
    rw [hr] at hk
    generalize h.registrations.get? key = x at hk hi
    cases hk with
    | some hext =>
      cases hold : registration.instance? with
      | none =>
        rw [hext.built i hold hi]
        exact hfactory i.serial
      | some j =>
        obtain rfl : j = i := Option.some.inj ((hext.kept j hold).symm.trans hi)
        exact hinstance j hold

end Extends

variable {g h : Registry π} {key : ProviderKey}

@[simp] theorem get?_register (g : Registry π) (key : ProviderKey) (f : Nat → π)
    (k : ProviderKey) : (g.register key f).registrations.get? k =
      if k = key then some ⟨f, none⟩ else g.registrations.get? k :=
  Dictionary.get?_insert ..

theorem resolve_ok {i : Instance π} (hr : g.resolve key = (.ok i, h)) :
    g.Extends h ∧ h.instance? key = some i ∧ g.contains key = true := by
  unfold resolve at hr
  unfold instance? contains Dictionary.contains
  cases hk : g.registrations.get? key with
  | none => simp [hk] at hr
  | some r =>
    obtain ⟨factory, instance?⟩ := r
    cases instance? with
    | some j =>
      obtain ⟨rfl, rfl⟩ : j = i ∧ g = h := by simpa [hk] using hr
      exact ⟨.refl g, by rw [hk]; rfl, rfl⟩
    | none =>
      obtain ⟨rfl, rfl⟩ := by simpa [hk] using hr
      refine ⟨fun k => ?_, by simp, rfl⟩
      rw [Dictionary.get?_insert]
      by_cases hkk : k = key
      · subst hkk
        rw [hk, if_pos rfl]
        refine .some ⟨rfl, fun j hj => ?_, fun j _ hj => ?_⟩
        · cases hj
        · cases hj
          rfl
      · rw [if_neg hkk]
        exact Extends.refl g k

theorem resolve_error {f : ProviderFault} (hr : g.resolve key = (.error f, h)) :
    h = g ∧ f = .notFound key ∧ g.contains key = false := by
  unfold resolve at hr
  unfold contains Dictionary.contains
  cases hk : g.registrations.get? key with
  | none =>
    obtain ⟨rfl, rfl⟩ : ProviderFault.notFound key = f ∧ g = h := by simpa [hk] using hr
    exact ⟨rfl, rfl, rfl⟩
  | some r =>
    obtain ⟨factory, instance?⟩ := r
    cases instance? with
    | some j => simp [hk] at hr
    | none => simp [hk] at hr

/-- A key that is registered resolves to an instance. -/
theorem resolve_of_contains (hc : g.contains key = true) :
    ∃ i h, g.resolve key = (.ok i, h) := by
  rcases hr : g.resolve key with ⟨f | i, h⟩
  · obtain ⟨-, -, hno⟩ := resolve_error hr
    rw [hc] at hno
    cases hno
  · exact ⟨i, h, rfl⟩

end Registry

end Provision
