import Provision.Proofs.Instances
import Mathlib.Data.List.Induction

/-!
# Histories of a registry

A history lists what was done with a registry, first things first: keys were registered and keys
were resolved. Tasks that resolve keys at the same time take turns, so that every interleaving of
their resolutions is one history, and what holds of all histories holds of all interleavings.

`Registry.Matches` relates a registry to its history, step by step: which factory was registered
last, whether it was called since, and how many were called in all. From this invariant it follows
that a registry says what its history says (`remembers_history`).
-/

namespace Provision.Registry

variable {π : Type}

/-- Something that is done with a registry. -/
inductive Action (π : Type) where
  | register (key : ProviderKey) (factory : Nat → π)
  | resolve (key : ProviderKey)

/-- The key that an action is about. -/
def Action.key : Action π → ProviderKey
  | register key _ | resolve key => key

/-- The registry after an action. -/
def act (g : Registry π) : Action π → Registry π
  | .register key factory => g.register key factory
  | .resolve key => (g.resolve key).2

/-- The registry after a history, which starts without registrations. -/
def after (h : List (Action π)) : Registry π := h.foldl act ∅

theorem after_append (h : List (Action π)) (a : Action π) :
    after (h ++ [a]) = (after h).act a := by
  unfold after
  rw [List.foldl_append, List.foldl_cons, List.foldl_nil]

theorem after_append_cons (h later : List (Action π)) (a : Action π) :
    after (h ++ a :: later) = later.foldl act (after (h ++ [a])) := by
  unfold after
  rw [List.foldl_append, List.foldl_append, List.foldl_cons, List.foldl_cons, List.foldl_nil]

/-! ## What a history says -/

/-- The key is registered in the history. -/
def Registers (h : List (Action π)) (key : ProviderKey) : Prop :=
  ∃ factory, .register key factory ∈ h

/-- The factory is the last one that was registered for the key. -/
def LastRegistered (h : List (Action π)) (key : ProviderKey) (factory : Nat → π) : Prop :=
  ∃ before since, h = before ++ .register key factory :: since ∧ ¬ Registers since key

/-- Nothing was done with the key. -/
def Untouched (h : List (Action π)) (key : ProviderKey) : Prop := ∀ a ∈ h, a.key ≠ key

/-- The key was registered, and it was not resolved since. -/
def Unresolved (h : List (Action π)) (key : ProviderKey) : Prop :=
  ∃ before factory since, h = before ++ .register key factory :: since ∧ Untouched since key

/-- Whether the key is resolved before it is registered again. -/
def resolvesFirst (key : ProviderKey) : List (Action π) → Bool
  | [] => false
  | .register k _ :: later => k ≠ key && resolvesFirst key later
  | .resolve k :: later => k = key || resolvesFirst key later

/-- The number of registrations that are resolved at least once before they are replaced. -/
def resolvedRegistrations : List (Action π) → Nat
  | [] => 0
  | .register key _ :: later =>
    resolvedRegistrations later + if resolvesFirst key later then 1 else 0
  | .resolve _ :: later => resolvedRegistrations later

section History

variable {h : List (Action π)} {key k : ProviderKey} {f : Nat → π} {a : Action π}

theorem registers_append :
    Registers (h ++ [a]) key ↔ Registers h key ∨ ∃ f, a = .register key f := by
  unfold Registers
  constructor
  · rintro ⟨f, hf⟩
    rcases List.mem_append.1 hf with hf | hf
    · exact .inl ⟨f, hf⟩
    · exact .inr ⟨f, (List.mem_singleton.1 hf).symm⟩
  · rintro (⟨f, hf⟩ | ⟨f, rfl⟩)
    · exact ⟨f, List.mem_append_left _ hf⟩
    · exact ⟨f, List.mem_append_right _ (List.mem_singleton.2 rfl)⟩

theorem lastRegistered_register : LastRegistered (h ++ [.register key f]) key f :=
  ⟨h, [], rfl, fun ⟨_, hf⟩ => List.not_mem_nil hf⟩

theorem LastRegistered.append (hl : LastRegistered h key f) (ha : ∀ f', a ≠ .register key f') :
    LastRegistered (h ++ [a]) key f := by
  obtain ⟨before, since, rfl, hs⟩ := hl
  refine ⟨before, since ++ [a], by simp, fun hr => ?_⟩
  rcases registers_append.1 hr with hr | ⟨f', rfl⟩
  · exact hs hr
  · exact ha f' rfl

theorem unresolved_register : Unresolved (h ++ [.register key f]) key :=
  ⟨h, f, [], rfl, fun _ ha => absurd ha List.not_mem_nil⟩

theorem unresolved_append (ha : ∀ f, a ≠ .register key f) :
    Unresolved (h ++ [a]) key ↔ a.key ≠ key ∧ Unresolved h key := by
  constructor
  · rintro ⟨before, f, since, heq, hs⟩
    rcases List.eq_nil_or_concat since with rfl | ⟨since, b, rfl⟩
    · obtain ⟨-, hlast⟩ := List.append_inj' heq rfl
      exact absurd (List.singleton_inj.1 hlast) (ha f)
    · have heq' : h ++ [a] = (before ++ .register key f :: since) ++ [b] := by simpa using heq
      obtain ⟨rfl, hlast⟩ := List.append_inj' heq' rfl
      obtain rfl := List.singleton_inj.1 hlast
      exact ⟨hs a (by simp), before, f, since, rfl, fun b hb => hs b (by simp [hb])⟩
  · rintro ⟨hkey, before, f, since, rfl, hs⟩
    refine ⟨before, f, since ++ [a], by simp, fun b hb => ?_⟩
    rcases List.mem_append.1 hb with hb | hb
    · exact hs b hb
    · rwa [List.mem_singleton.1 hb]

theorem unresolved_register_cons :
    Unresolved (.register k f :: h) key ↔ Unresolved h key ∨ k = key ∧ Untouched h key := by
  constructor
  · rintro ⟨before, f', since, heq, hs⟩
    cases before with
    | nil =>
      obtain ⟨hhead, rfl⟩ := List.cons.inj heq
      obtain ⟨rfl, -⟩ := Action.register.inj hhead
      exact .inr ⟨rfl, hs⟩
    | cons b before =>
      obtain ⟨-, rfl⟩ := List.cons.inj heq
      exact .inl ⟨before, f', since, rfl, hs⟩
  · rintro (⟨before, f', since, rfl, hs⟩ | ⟨rfl, hs⟩)
    · exact ⟨_ :: before, f', since, rfl, hs⟩
    · exact ⟨[], f, h, rfl, hs⟩

theorem unresolved_resolve_cons : Unresolved (.resolve k :: h) key ↔ Unresolved h key := by
  constructor
  · rintro ⟨before, f, since, heq, hs⟩
    cases before with
    | nil => cases heq
    | cons b before =>
      obtain ⟨-, rfl⟩ := List.cons.inj heq
      exact ⟨before, f, since, rfl, hs⟩
  · rintro ⟨before, f, since, rfl, hs⟩
    exact ⟨_ :: before, f, since, rfl, hs⟩

theorem Untouched.not_unresolved (hu : Untouched h key) : ¬ Unresolved h key := by
  rintro ⟨before, f, since, rfl, -⟩
  exact hu (.register key f) (by simp) rfl

theorem Unresolved.registers (hu : Unresolved h key) : Registers h key := by
  obtain ⟨before, f, since, rfl, -⟩ := hu
  exact ⟨f, by simp⟩

/-! ### Counting registrations that are resolved -/

theorem resolvesFirst_register (k : ProviderKey) :
    resolvesFirst k (h ++ [.register key f]) = resolvesFirst k h := by
  induction h with
  | nil => simp [resolvesFirst]
  | cons a h ih => cases a <;> simp [resolvesFirst, ih]

theorem resolvedRegistrations_register :
    resolvedRegistrations (h ++ [.register key f]) = resolvedRegistrations h := by
  induction h with
  | nil => rfl
  | cons a h ih =>
    cases a with
    | register k f' =>
      simp only [List.cons_append, resolvedRegistrations, ih, resolvesFirst_register]
    | resolve k => exact ih

/-- A resolution at the end counts for a registration that nothing was done with before. -/
theorem resolvesFirst_resolve :
    resolvesFirst k (h ++ [.resolve key]) = true ↔
      resolvesFirst k h = true ∨ k = key ∧ Untouched h k := by
  induction h with
  | nil => simp [resolvesFirst, Untouched, eq_comm]
  | cons a h ih =>
    cases a with
    | register l f' =>
      by_cases hl : l = k
      · simp [resolvesFirst, Untouched, Action.key, hl]
      · simp [resolvesFirst, ih, Untouched, Action.key, hl]
    | resolve l =>
      by_cases hl : l = k
      · simp [resolvesFirst, hl]
      · simp [resolvesFirst, ih, Untouched, Action.key, hl]

theorem Untouched.resolvesFirst (hu : Untouched h k) : resolvesFirst k h = false := by
  induction h with
  | nil => rfl
  | cons a h ih =>
    have hrest : Untouched h k := fun b hb => hu b (List.mem_cons_of_mem _ hb)
    have ha : a.key ≠ k := hu a List.mem_cons_self
    cases a with
    | register l f' => simp [Registry.resolvesFirst, ih hrest]
    | resolve l =>
      have hl : l ≠ k := ha
      simp [Registry.resolvesFirst, ih hrest, hl]

open Classical in
theorem resolvedRegistrations_resolve :
    resolvedRegistrations (h ++ [.resolve key]) =
      resolvedRegistrations h + if Unresolved h key then 1 else 0 := by
  induction h with
  | nil =>
    have hu : ¬ Unresolved ([] : List (Action π)) key := fun hu => by
      obtain ⟨f, hf⟩ := hu.registers
      cases hf
    simp [resolvedRegistrations, hu]
  | cons a h ih =>
    cases a with
    | resolve l =>
      simp only [List.cons_append, resolvedRegistrations, ih, unresolved_resolve_cons]
    | register l f' =>
      simp only [List.cons_append, resolvedRegistrations, ih, unresolved_register_cons,
        resolvesFirst_resolve]
      by_cases hl : l = key ∧ Untouched h l
      · -- the registration is resolved for the first time
        obtain ⟨rfl, hu⟩ := hl
        simp [hu, hu.not_unresolved, hu.resolvesFirst]
      · have hl' : ¬ (l = key ∧ Untouched h key) := fun h' => hl ⟨h'.1, h'.1 ▸ h'.2⟩
        simp only [hl, hl', or_false]
        omega

end History

/-! ## What an action does -/

section Actions

variable {g : Registry π} {key k : ProviderKey} {f : Nat → π} {i : Instance π}

theorem resolve_of_missing (hk : g.registrations.get? key = none) :
    g.resolve key = (.error (.notFound key), g) := by
  unfold resolve
  rw [hk]

theorem resolve_of_instance (hk : g.registrations.get? key = some ⟨f, some i⟩) :
    g.resolve key = (.ok i, g) := by
  unfold resolve
  rw [hk]

theorem resolve_of_factory (hk : g.registrations.get? key = some ⟨f, none⟩) :
    g.resolve key = (.ok ⟨g.built.length + 1, f (g.built.length + 1)⟩,
      ⟨g.registrations.insert key ⟨f, some ⟨g.built.length + 1, f (g.built.length + 1)⟩⟩,
        g.built ++ [key]⟩) := by
  unfold resolve
  rw [hk]

theorem get?_resolve_of_ne (hk : k ≠ key) :
    (g.resolve key).2.registrations.get? k = g.registrations.get? k := by
  unfold resolve
  split
  · rfl
  · rfl
  · exact (Dictionary.get?_insert ..).trans (if_neg hk)

/-- An action on one key leaves the registrations of all others alone. -/
theorem get?_act_of_ne {a : Action π} (hk : a.key ≠ k) :
    (g.act a).registrations.get? k = g.registrations.get? k := by
  cases a with
  | register key f => exact (get?_register ..).trans (if_neg (Ne.symm hk))
  | resolve key => exact get?_resolve_of_ne (Ne.symm hk)

end Actions

/-! ## A registry and its history -/

/-- What a registry holds for a key after a history in which some instances were built. -/
inductive Holds (h : List (Action π)) (built : Nat) (key : ProviderKey) :
    Option (Registration π) → Prop
  | missing (hn : ¬ Registers h key) : Holds h built key none
  | unresolved {f : Nat → π} (hl : LastRegistered h key f) (hu : Unresolved h key) :
    Holds h built key (some ⟨f, none⟩)
  | resolved {f : Nat → π} {n : Nat} (hl : LastRegistered h key f) (hu : ¬ Unresolved h key)
    (hn : n ≤ built) : Holds h built key (some ⟨f, some ⟨n, f n⟩⟩)

/-- What a registry holds after a history. -/
structure Matches (h : List (Action π)) (g : Registry π) : Prop where
  holds : ∀ key, Holds h g.built.length key (g.registrations.get? key)
  built : g.built.length = resolvedRegistrations h

section Matching

variable {h : List (Action π)} {g : Registry π} {key : ProviderKey} {a : Action π} {n m : Nat}
  {r : Option (Registration π)}

/-- An action on another key changes nothing. -/
theorem Holds.append (hr : Holds h n key r) (ha : a.key ≠ key) (hm : n ≤ m) :
    Holds (h ++ [a]) m key r := by
  have hf : ∀ f, a ≠ .register key f := fun f haf => ha (haf ▸ rfl)
  cases hr with
  | missing hn =>
    refine .missing fun hr => ?_
    rcases registers_append.1 hr with hr | ⟨f, rfl⟩
    · exact hn hr
    · exact ha rfl
  | unresolved hl hu => exact .unresolved (hl.append hf) ((unresolved_append hf).2 ⟨ha, hu⟩)
  | resolved hl hu hn =>
    exact .resolved (hl.append hf) (fun hu' => hu ((unresolved_append hf).1 hu').2)
      (Nat.le_trans hn hm)

theorem Holds.unresolved_iff (hr : Holds h n key r) :
    Unresolved h key ↔ ∃ f, r = some ⟨f, none⟩ := by
  cases hr with
  | missing hn => exact ⟨fun hu => absurd hu.registers hn, fun ⟨f, hf⟩ => nomatch hf⟩
  | unresolved hl hu => exact ⟨fun _ => ⟨_, rfl⟩, fun _ => hu⟩
  | resolved hl hu hn => exact ⟨fun hu' => absurd hu' hu, fun ⟨f, hf⟩ => by simp at hf⟩

theorem matches_empty : Matches ([] : List (Action π)) ∅ :=
  ⟨fun _ => .missing fun ⟨_, hf⟩ => List.not_mem_nil hf, rfl⟩

theorem Matches.register (hg : Matches h g) (key : ProviderKey) (f : Nat → π) :
    Matches (h ++ [.register key f]) (g.register key f) := by
  refine ⟨fun k => ?_, hg.built.trans resolvedRegistrations_register.symm⟩
  rw [get?_register]
  by_cases hk : k = key
  · rw [if_pos hk, hk]
    exact .unresolved lastRegistered_register unresolved_register
  · rw [if_neg hk]
    exact (hg.holds k).append (Ne.symm hk) (Nat.le_refl _)

theorem Matches.resolve (hg : Matches h g) (key : ProviderKey) :
    Matches (h ++ [.resolve key]) (g.resolve key).2 := by
  have hkey := hg.holds key
  have happend : ∀ f : Nat → π, (.resolve key : Action π) ≠ .register key f :=
    fun f hf => nomatch hf
  have hresolved : ¬ Unresolved (h ++ [.resolve key]) key := fun hu =>
    ((unresolved_append happend).1 hu).1 rfl
  have hbuilt := hg.built
  generalize hr : g.registrations.get? key = r at hkey
  cases hkey with
  | missing hn =>
    rw [resolve_of_missing hr]
    have hu : ¬ Unresolved h key := fun hu => hn hu.registers
    refine ⟨fun k => ?_, by rw [resolvedRegistrations_resolve, if_neg hu, hbuilt, Nat.add_zero]⟩
    by_cases hk : k = key
    · rw [hk, hr]
      refine .missing fun hr => ?_
      rcases registers_append.1 hr with hr | ⟨f, hf⟩
      · exact hn hr
      · exact happend f hf
    · exact (hg.holds k).append (Ne.symm hk) (Nat.le_refl _)
  | resolved hl hu hn =>
    rw [resolve_of_instance hr]
    refine ⟨fun k => ?_, by rw [resolvedRegistrations_resolve, if_neg hu, hbuilt, Nat.add_zero]⟩
    by_cases hk : k = key
    · rw [hk, hr]
      exact .resolved (hl.append happend) hresolved hn
    · exact (hg.holds k).append (Ne.symm hk) (Nat.le_refl _)
  | unresolved hl hu =>
    rw [resolve_of_factory hr]
    refine ⟨fun k => ?_, ?_⟩
    · rw [Dictionary.get?_insert]
      by_cases hk : k = key
      · rw [if_pos hk, hk]
        exact .resolved (hl.append happend) hresolved (by simp)
      · rw [if_neg hk]
        exact (hg.holds k).append (Ne.symm hk) (by simp)
    · rw [resolvedRegistrations_resolve, if_pos hu, List.length_append, hbuilt]
      rfl

theorem Matches.act (hg : Matches h g) (a : Action π) : Matches (h ++ [a]) (g.act a) := by
  cases a with
  | register key f => exact hg.register key f
  | resolve key => exact hg.resolve key

/-- A registry matches its history. -/
theorem matches_after (h : List (Action π)) : Matches h (after h) := by
  induction h using List.reverseRecOn with
  | nil => exact matches_empty
  | append_singleton h a ih =>
    rw [after_append]
    exact ih.act a

end Matching

/-! ## Instances that stay and instances that are new -/

section Instances

variable {g : Registry π} {key : ProviderKey} {i j : Instance π} {later : List (Action π)}

theorem instance?_resolve (hi : (g.resolve key).1 = .ok i) :
    (g.act (.resolve key)).instance? key = some i :=
  (resolve_ok (Prod.ext hi rfl)).2.1

theorem resolve_of_instance? (hi : g.instance? key = some i) : (g.resolve key).1 = .ok i := by
  obtain ⟨⟨f, instance?⟩, hr, hinst⟩ := Option.bind_eq_some_iff.1 hi
  obtain rfl : instance? = some i := hinst
  rw [resolve_of_instance hr]

/-- The instance of a key stays as long as the key is not registered again. -/
theorem instance?_foldl_act (hl : ¬ Registers later key) (hi : g.instance? key = some i) :
    (later.foldl act g).instance? key = some i := by
  induction later generalizing g with
  | nil => exact hi
  | cons a later ih =>
    rw [List.foldl_cons]
    refine ih (fun ⟨f, hf⟩ => hl ⟨f, List.mem_cons_of_mem _ hf⟩) ?_
    by_cases ha : a.key = key
    · cases a with
      | register k f =>
        obtain rfl : k = key := ha
        exact absurd ⟨f, List.mem_cons_self⟩ hl
      | resolve k =>
        obtain rfl : k = key := ha
        exact instance?_resolve (resolve_of_instance? hi)
    · unfold instance?
      rw [get?_act_of_ne ha]
      exact hi

/-- At least `n` instances were built, and that of the key is none of the first `n`. -/
structure IsNew (n : Nat) (key : ProviderKey) (g : Registry π) : Prop where
  built : n ≤ g.built.length
  serial : ∀ i, g.instance? key = some i → n < i.serial

theorem IsNew.register {n : Nat} (hn : n ≤ g.built.length) (f : Nat → π) :
    IsNew n key (g.register key f) := by
  refine ⟨hn, fun i hi => ?_⟩
  unfold instance? at hi
  rw [get?_register, if_pos rfl] at hi
  cases hi

theorem built_act_le (g : Registry π) (a : Action π) :
    g.built.length ≤ (g.act a).built.length := by
  cases a with
  | register key f => exact Nat.le_refl _
  | resolve key =>
    unfold act resolve
    dsimp only
    split <;> simp

theorem built_foldl_act_le : g.built.length ≤ (later.foldl act g).built.length := by
  induction later generalizing g with
  | nil => exact Nat.le_refl _
  | cons a later ih => exact Nat.le_trans (built_act_le g a) ih

theorem IsNew.step {n : Nat} (hg : IsNew n key g) (a : Action π) : IsNew n key (g.act a) := by
  refine ⟨Nat.le_trans hg.built (built_act_le g a), fun i hi => ?_⟩
  by_cases ha : a.key = key
  · cases a with
    | register k f =>
      obtain rfl : k = key := ha
      exact (IsNew.register hg.built f).serial i hi
    | resolve k =>
      obtain rfl : k = key := ha
      rcases hr : g.registrations.get? k with _ | ⟨f, _ | j⟩
      · rw [act, resolve_of_missing hr] at hi
        exact hg.serial i hi
      · rw [act, resolve_of_factory hr] at hi
        have hnew : (⟨g.built.length + 1, f (g.built.length + 1)⟩ : Instance π) = i := by
          simpa [instance?] using hi
        rw [← hnew]
        exact Nat.lt_succ_of_le hg.built
      · rw [act, resolve_of_instance hr] at hi
        exact hg.serial i hi
  · refine hg.serial i ?_
    unfold instance? at hi ⊢
    rwa [get?_act_of_ne ha] at hi

theorem IsNew.run {n : Nat} (hg : IsNew n key g) : IsNew n key (later.foldl act g) := by
  induction later generalizing g with
  | nil => exact hg
  | cons a later ih => exact ih (hg.step a)

/-- After the key was registered again its instance is none of those that were built before. -/
theorem isNew_of_registers (hl : Registers later key) :
    IsNew g.built.length key (later.foldl act g) := by
  obtain ⟨f, hf⟩ := hl
  obtain ⟨before, since, rfl⟩ := List.append_of_mem hf
  rw [List.foldl_append, List.foldl_cons]
  exact (IsNew.register built_foldl_act_le f).run

end Instances

/-! ## The registered keys -/

section Keys

variable {g : Registry π} {key : ProviderKey}

theorem contains_eq_false : g.contains key = false ↔ g.registrations.get? key = none := by
  unfold contains Dictionary.contains
  cases g.registrations.get? key <;> simp

theorem mem_keys : key ∈ g.keys ↔ g.contains key = true := by
  unfold keys ProviderKey.sorted
  rw [List.mem_mergeSort]
  exact findValue?_isSome.symm

theorem length_keys : g.keys.length = g.size := by
  unfold keys ProviderKey.sorted size Dictionary.size Dictionary.keys
  rw [List.length_mergeSort, List.length_map]

instance : Std.TransCmp ProviderKey.compare :=
  inferInstanceAs (Std.TransCmp
    (compareLex (compareOn ProviderKey.name) (compareOn ProviderKey.version)))

theorem eq_of_compare {a b : ProviderKey} (h : a.compare b = .eq) : a = b := by
  obtain ⟨hname, hversion⟩ := Ordering.then_eq_eq.1 h
  obtain ⟨name, version⟩ := a
  obtain rfl : name = b.name := Std.LawfulEqOrd.eq_of_compare hname
  obtain rfl : version = b.version := Std.LawfulEqOrd.eq_of_compare hversion
  rfl

/-- The keys ascend, and each stands there once. -/
theorem pairwise_keys : g.keys.Pairwise fun a b => a.compare b = .lt := by
  have hsorted : g.keys.Pairwise fun a b => ProviderKey.le a b = true := by
    refine List.pairwise_mergeSort (fun a b c hab hbc => ?_) (fun a b => ?_) _
    · exact Std.TransCmp.isLE_trans hab hbc
    · have hswap : b.compare a = (a.compare b).swap := Std.OrientedCmp.eq_swap
      unfold ProviderKey.le
      rw [hswap]
      cases a.compare b <;> rfl
  have hdistinct : g.keys.Nodup := (List.mergeSort_perm _ _).nodup_iff.2 g.registrations.distinct
  refine (hsorted.and hdistinct).imp fun {a b} h => ?_
  obtain ⟨hle, hne⟩ := h
  unfold ProviderKey.le at hle
  cases hc : a.compare b with
  | lt => rfl
  | eq => exact absurd (eq_of_compare hc) hne
  | gt => simp [hc] at hle

end Keys

/-! ## What a registry says -/

/-- What the resolution of a key tells after a history. -/
def answer (h : List (Action π)) (key : ProviderKey) : Except ProviderFault (Instance π) :=
  ((after h).resolve key).1

/-- What a registry says is what its history says. -/
structure Remembers (h : List (Action π)) : Prop where
  notFound : ∀ key, answer h key = .error (.notFound key) ↔ ¬ Registers h key
  /-- A key that is registered resolves to an instance that its last factory built. -/
  last : ∀ key, Registers h key →
    ∃ f i, LastRegistered h key f ∧ answer h key = .ok i ∧ i.provider = f i.serial
  /-- As long as the key is not registered again, it resolves to the same instance. -/
  same : ∀ key i later, answer h key = .ok i → ¬ Registers later key →
    answer (h ++ .resolve key :: later) key = .ok i
  /-- When it was, it resolves to an instance that was built later than any before. -/
  renewed : ∀ key i later, answer h key = .ok i → Registers later key →
    ∃ j, answer (h ++ .resolve key :: later) key = .ok j ∧ i.serial < j.serial
  /-- No factory is called when it is registered. -/
  register : ∀ key f, (after (h ++ [.register key f])).built = (after h).built
  /-- The factory of a key is called by the first resolution of the key, and by no other one. -/
  first : ∀ key, Unresolved h key →
    (after (h ++ [.resolve key])).built = (after h).built ++ [key]
  others : ∀ key, ¬ Unresolved h key → (after (h ++ [.resolve key])).built = (after h).built
  /-- So as many instances were built as registrations were resolved before they were replaced. -/
  built : (after h).built.length = resolvedRegistrations h
  /-- An action on another key, however alike the two are written, changes nothing of a key. -/
  apart : ∀ a key, a.key ≠ key →
    (after (h ++ [a])).registrations.get? key = (after h).registrations.get? key
  contains : ∀ key, (after h).contains key = true ↔ Registers h key
  keys : ∀ key, key ∈ (after h).keys ↔ Registers h key
  ascending : (after h).keys.Pairwise fun a b => a.compare b = .lt
  size : (after h).size = (after h).keys.length

section Remembering

variable {h : List (Action π)} {g : Registry π} {key : ProviderKey}

theorem Matches.contains_iff (hg : Matches h g) : g.contains key = true ↔ Registers h key := by
  have hkey := hg.holds key
  unfold contains Dictionary.contains
  generalize g.registrations.get? key = r at hkey
  cases hkey with
  | missing hn => simpa using hn
  | unresolved hl hu => exact ⟨fun _ => hu.registers, fun _ => rfl⟩
  | resolved hl hu hn =>
    obtain ⟨before, since, rfl, -⟩ := hl
    exact ⟨fun _ => ⟨_, List.mem_append_right _ List.mem_cons_self⟩, fun _ => rfl⟩

theorem Matches.resolve_eq_notFound (hg : Matches h g) :
    (g.resolve key).1 = .error (.notFound key) ↔ ¬ Registers h key := by
  rw [← hg.contains_iff, Bool.not_eq_true]
  constructor
  · intro hr
    exact (resolve_error (Prod.ext hr rfl)).2.2
  · intro hc
    rw [resolve_of_missing (contains_eq_false.1 hc)]

/-- A key that is registered resolves to an instance of its last factory. -/
theorem Matches.resolve_eq_ok (hg : Matches h g) (hr : Registers h key) :
    ∃ f i, LastRegistered h key f ∧ (g.resolve key).1 = .ok i ∧ i.provider = f i.serial := by
  have hkey := hg.holds key
  generalize heq : g.registrations.get? key = r at hkey
  cases hkey with
  | missing hn => exact absurd hr hn
  | unresolved hl hu =>
    rw [resolve_of_factory heq]
    exact ⟨_, _, hl, rfl, rfl⟩
  | resolved hl hu hn =>
    rw [resolve_of_instance heq]
    exact ⟨_, _, hl, rfl, rfl⟩

/-- The instances that are there are among those that were built. -/
theorem Matches.serial_le (hg : Matches h g) {i : Instance π} (hi : g.instance? key = some i) :
    i.serial ≤ g.built.length := by
  have hkey := hg.holds key
  unfold instance? at hi
  generalize g.registrations.get? key = r at hkey hi
  cases hkey with
  | missing hn => cases hi
  | unresolved hl hu => cases hi
  | resolved hl hu hn =>
    obtain rfl := Option.some.inj hi
    exact hn

theorem Matches.built_resolve_of_unresolved (hg : Matches h g) (hu : Unresolved h key) :
    (g.resolve key).2.built = g.built ++ [key] := by
  obtain ⟨f, hf⟩ := (hg.holds key).unresolved_iff.1 hu
  rw [resolve_of_factory hf]

theorem Matches.built_resolve_of_not (hg : Matches h g) (hu : ¬ Unresolved h key) :
    (g.resolve key).2.built = g.built := by
  have hkey := hg.holds key
  generalize heq : g.registrations.get? key = r at hkey
  cases hkey with
  | missing hn => rw [resolve_of_missing heq]
  | unresolved hl hu' => exact absurd hu' hu
  | resolved hl hu hn => rw [resolve_of_instance heq]

/-- **A registry says what its history says.** After every history a key resolves to the one
instance that its last factory built, if it was registered at all; each factory is called when its
key is first resolved, and then no more. -/
theorem remembers_history (h : List (Action π)) : Remembers h := by
  have hg := matches_after h
  refine
    { notFound := fun key => hg.resolve_eq_notFound
      last := fun key hr => hg.resolve_eq_ok hr
      same := fun key i later hi hl => ?_
      renewed := fun key i later hi hl => ?_
      register := fun key f => by rw [after_append]; rfl
      first := fun key hu => by
        rw [after_append]
        exact hg.built_resolve_of_unresolved hu
      others := fun key hu => by
        rw [after_append]
        exact hg.built_resolve_of_not hu
      built := hg.built
      apart := fun a key ha => by rw [after_append, get?_act_of_ne ha]
      contains := fun key => hg.contains_iff
      keys := fun key => mem_keys.trans hg.contains_iff
      ascending := pairwise_keys
      size := length_keys.symm }
  · unfold answer
    rw [after_append_cons, after_append]
    exact resolve_of_instance? (instance?_foldl_act hl (instance?_resolve hi))
  · have hregisters : Registers (h ++ .resolve key :: later) key := by
      obtain ⟨f, hf⟩ := hl
      exact ⟨f, List.mem_append_right _ (List.mem_cons_of_mem _ hf)⟩
    obtain ⟨f, j, -, hj, -⟩ := (matches_after _).resolve_eq_ok hregisters
    have hi' : (after (h ++ [.resolve key])).instance? key = some i := by
      rw [after_append]
      exact instance?_resolve hi
    have hold : i.serial ≤ (after (h ++ [.resolve key])).built.length :=
      (matches_after _).serial_le hi'
    have hnew : IsNew (after (h ++ [.resolve key])).built.length key
        (after (h ++ .resolve key :: later)) :=
      after_append_cons h later _ ▸ isNew_of_registers hl
    have hj' := (hnew.step (.resolve key)).serial j (instance?_resolve hj)
    exact ⟨j, hj, Nat.lt_of_le_of_lt hold hj'⟩

/-- Two keys may be written alike and still be two. -/
example : (⟨"a@b", "c"⟩ : ProviderKey).label = (⟨"a", "b@c"⟩ : ProviderKey).label ∧
    (⟨"a@b", "c"⟩ : ProviderKey) ≠ ⟨"a", "b@c"⟩ := by
  decide

end Remembering

end Provision.Registry
