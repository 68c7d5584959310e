import Mathlib.Data.List.Nodup
import Provision.Proofs.Histories
import Provision.Proofs.Previews
import Provision.Proofs.RoundTrips
import Provision.Template.Document

/-!
# Dictionaries in another order

A dictionary lists its entries in some order, and two dictionaries with the same entries answer
every question alike (`Dictionary.reorders_iff`). Whoever makes a list of a dictionary sorts it
first: so diagnostics, the keys of a registry and the resource types of a dispatch table are the
same for all orders (`Diagnostics.orderless`), and the bundled providers, which only look their
settings up, do the same for all orders of these (`Settings.orderless_registry`).
-/

namespace Provision

/-! ## Tables of entries in any order -/

theorem insertEntry_comm {ν : Type} {k k' : String} (h : k ≠ k') (v v' : ν)
    (entries : List (String × ν)) :
    insertEntry k v (insertEntry k' v' entries) = insertEntry k' v' (insertEntry k v entries) := by
  have heq : ∀ a b : String, ¬ a < b → ¬ b < a → a = b := fun a b hab hba =>
    String.le_antisymm (String.not_lt.1 hba) (String.not_lt.1 hab)
  induction entries with
  | nil => grind [insertEntry, String.lt_asymm]
  | cons e rest ih => grind [insertEntry, String.lt_trans, String.lt_asymm]

/-- Entries of distinct names make one table in whatever order they come. -/
theorem Table.ofList_of_perm {ν : Type} {l l' : List (String × ν)} (h : l.Perm l')
    (hn : (l.map Prod.fst).Nodup) : Table.ofList l = Table.ofList l' := by
  unfold Table.ofList
  refine h.foldl_eq' (fun x hx y hy t => ?_) _
  by_cases hxy : x.1 = y.1
  · have hone : x = y := List.inj_on_of_nodup_map hn hx hy hxy
    rw [hone]
  · exact Table.ext (insertEntry_comm (Ne.symm hxy) _ _ _)

/-! ## Dictionaries with the same entries -/

namespace Dictionary

section Reordering

variable {κ ν : Type} {d d' d'' : Dictionary κ ν}

/-- The dictionaries have the same entries, perhaps in another order. -/
def Reorders (d d' : Dictionary κ ν) : Prop := d.entries.Perm d'.entries

theorem Reorders.refl (d : Dictionary κ ν) : d.Reorders d := List.Perm.refl _

theorem Reorders.symm (h : d.Reorders d') : d'.Reorders d := List.Perm.symm h

theorem Reorders.trans (h : d.Reorders d') (h' : d'.Reorders d'') : d.Reorders d'' :=
  List.Perm.trans h h'

theorem Reorders.keys (h : d.Reorders d') : d.keys.Perm d'.keys := h.map Prod.fst

variable [DecidableEq κ]

theorem get?_eq_some {key : κ} {value : ν} :
    d.get? key = some value ↔ (key, value) ∈ d.entries :=
  ⟨mem_of_findValue?, findValue?_of_mem d.distinct⟩

/-- Dictionaries have the same entries exactly if they give the same value to every key. -/
theorem reorders_iff : d.Reorders d' ↔ ∀ key, d'.get? key = d.get? key := by
  have hn (d : Dictionary κ ν) : d.entries.Nodup := d.distinct.of_map _
  unfold Reorders
  rw [List.perm_ext_iff_of_nodup (hn d) (hn d')]
  constructor
  · intro h key
    refine Option.ext fun value => ?_
    rw [get?_eq_some, get?_eq_some]
    exact (h (key, value)).symm
  · rintro h ⟨key, value⟩
    rw [← get?_eq_some, ← get?_eq_some, h key]

theorem Reorders.get? (h : d.Reorders d') (key : κ) : d'.get? key = d.get? key :=
  reorders_iff.1 h key

end Reordering

end Dictionary

/-! ## Diagnostics -/

theorem redacted_of_reorders {d d' : Dictionary String Json} (h : d.Reorders d') :
    redacted d' = redacted d := by
  have hperm : (d'.keys.map fun key => (key, redaction)).Perm
      (d.keys.map fun key => (key, redaction)) := h.symm.keys.map _
  refine Table.ofList_of_perm hperm ?_
  rw [List.map_map]
  exact (List.map_id d'.keys).symm ▸ d'.distinct

theorem inspectConfig_of_reorders {d d' : Dictionary String Json} (h : d.Reorders d') :
    inspectConfig d' = inspectConfig d := by
  unfold inspectConfig
  rw [redacted_of_reorders h]

theorem OperationRequest.Same.inspect {r r' : OperationRequest} (h : r.Same r') :
    r'.inspect = r.inspect := by
  unfold OperationRequest.inspect
  rw [h.resourceType, h.properties,
    inspectConfig_of_reorders (Dictionary.reorders_iff.2 h.importConfig)]

/-- The imports differ in nothing but the order of their settings. -/
structure ImportDeclaration.Reorders (i i' : ImportDeclaration) : Prop where
  provider : i'.provider = i.provider
  version : i'.version = i.version
  config : i.config.Reorders i'.config

/-- Entries of the same names, with related values. -/
def Alike {α β : Type} (R : α → β → Prop) (e : String × α) (e' : String × β) : Prop :=
  e'.1 = e.1 ∧ R e.2 e'.2

/-- The templates differ in nothing but the order of the settings of their imports. -/
structure Template.Reorders (t t' : Template) : Prop where
  imports : List.Forall₂ (Alike ImportDeclaration.Reorders) t.imports.entries t'.imports.entries
  parameters : t'.parameters = t.parameters
  resources : t'.resources = t.resources
  outputs : t'.outputs = t.outputs

namespace ImportDeclaration.Reorders

variable {i i' i'' : ImportDeclaration}

theorem refl (i : ImportDeclaration) : i.Reorders i := ⟨rfl, rfl, .refl _⟩

theorem symm (h : i.Reorders i') : i'.Reorders i :=
  ⟨h.provider.symm, h.version.symm, h.config.symm⟩

theorem trans (h : i.Reorders i') (h' : i'.Reorders i'') : i.Reorders i'' :=
  ⟨h'.provider.trans h.provider, h'.version.trans h.version, h.config.trans h'.config⟩

theorem key (h : i.Reorders i') : i'.key = i.key := by
  unfold ImportDeclaration.key
  rw [h.provider, h.version]

theorem inspect (h : i.Reorders i') : i'.inspect = i.inspect := by
  unfold ImportDeclaration.inspect
  rw [h.provider, h.version, inspectConfig_of_reorders h.config]

end ImportDeclaration.Reorders

theorem Template.Reorders.refl (t : Template) : t.Reorders t where
  imports := List.forall₂_same.2 fun e _ => ⟨rfl, .refl e.2⟩
  parameters := rfl
  resources := rfl
  outputs := rfl

/-- Templates look the same if their imports do and nothing else differs. -/
theorem Template.inspect_congr {t t' : Template}
    (himports : List.Forall₂ (Alike fun i i' => i'.inspect = i.inspect)
      t.imports.entries t'.imports.entries)
    (hparameters : t'.parameters = t.parameters) (hresources : t'.resources = t.resources)
    (houtputs : t'.outputs = t.outputs) : t'.inspect = t.inspect := by
  have hentries : (t'.imports.map ImportDeclaration.inspect).entries =
      (t.imports.map ImportDeclaration.inspect).entries :=
    map_eq_of_forall₂ (himports.imp fun e e' he => Prod.ext he.1 he.2)
  unfold Template.inspect
  dsimp only
  rw [hentries, hparameters, hresources, houtputs]

theorem Template.Reorders.inspect {t t' : Template} (h : t.Reorders t') :
    t'.inspect = t.inspect :=
  Template.inspect_congr (h.imports.imp fun _ _ he => ⟨he.1, he.2.inspect⟩) h.parameters
    h.resources h.outputs

/-- The registries differ in nothing but the order of their registrations. -/
structure Registry.Reorders {π : Type} (g g' : Registry π) : Prop where
  registrations : g.registrations.Reorders g'.registrations
  built : g'.built = g.built

/-- Keys in ascending order do not depend on the order in which they are registered. -/
theorem Registry.Reorders.keys {π : Type} {g g' : Registry π} (h : g.Reorders g') :
    g'.keys = g.keys := by
  have hperm : g'.keys.Perm g.keys :=
    ((List.mergeSort_perm _ _).trans h.registrations.symm.keys).trans
      (List.mergeSort_perm _ _).symm
  refine hperm.eq_of_pairwise (fun a b _ _ hab hba => ?_) pairwise_keys pairwise_keys
  have hswap : b.compare a = (a.compare b).swap := Std.OrientedCmp.eq_swap
  rw [hab, hba] at hswap
  cases hswap

theorem Registry.Reorders.inspect {π : Type} {g g' : Registry π} (h : g.Reorders g') :
    g'.inspect = g.inspect := by
  unfold Registry.inspect
  rw [h.keys]

/-- The tables differ in nothing but the order of their handlers. -/
structure DispatchTable.Reorders {σ : Type} (t t' : DispatchTable σ) : Prop where
  operation : t'.operation = t.operation
  handlers : t.handlers.Reorders t'.handlers

theorem DispatchTable.sorted_resourceTypes {σ : Type} (t : DispatchTable σ) :
    t.resourceTypes.Pairwise (· ≤ ·) := by
  unfold resourceTypes
  refine (List.pairwise_mergeSort (fun a b c hab hbc => ?_) (fun a b => ?_) _).imp
    of_decide_eq_true
  · exact decide_eq_true (String.le_trans (of_decide_eq_true hab) (of_decide_eq_true hbc))
  · simpa using String.le_total a b

namespace DispatchTable.Reorders

variable {σ : Type} {t t' : DispatchTable σ}

theorem resourceTypes (h : t.Reorders t') : t'.resourceTypes = t.resourceTypes := by
  have hperm : t'.resourceTypes.Perm t.resourceTypes :=
    ((List.mergeSort_perm _ _).trans h.handlers.symm.keys).trans (List.mergeSort_perm _ _).symm
  exact hperm.eq_of_pairwise (fun a b _ _ => String.le_antisymm) (sorted_resourceTypes t')
    (sorted_resourceTypes t)

theorem inspect (h : t.Reorders t') : t'.inspect = t.inspect := by
  unfold DispatchTable.inspect
  rw [h.operation, h.resourceTypes]

/-- The handler of a type is found wherever it stands. -/
theorem dispatch (h : t.Reorders t') (provider : String) :
    t'.dispatch provider = t.dispatch provider := by
  funext r
  unfold DispatchTable.dispatch
  rw [h.operation, h.handlers.get?]

end DispatchTable.Reorders

/-- Nothing that is shown of dictionaries, or found in them, depends on their order. -/
structure Diagnostics.Orderless : Prop where
  request : ∀ r r' : OperationRequest, r.Same r' → r'.inspect = r.inspect
  template : ∀ t t' : Template, t.Reorders t' → t'.inspect = t.inspect
  registry : ∀ {π : Type} (g g' : Registry π), g.Reorders g' →
    g'.inspect = g.inspect ∧ g'.keys = g.keys
  dispatch : ∀ {σ : Type} (t t' : DispatchTable σ), t.Reorders t' →
    t'.inspect = t.inspect ∧ t'.resourceTypes = t.resourceTypes ∧
      ∀ provider, t'.dispatch provider = t.dispatch provider

theorem Diagnostics.orderless : Diagnostics.Orderless where
  request _ _ h := h.inspect
  template _ _ h := h.inspect
  registry _ _ h := ⟨h.inspect, h.keys⟩
  dispatch _ _ h := ⟨h.inspect, h.resourceTypes, h.dispatch⟩

/-! ## Providers that look their settings up -/

/-- The provider does the same whatever the order of the settings in a request. -/
def Provider.Orderless {σ : Type} (p : Provider σ) : Prop :=
  ∀ o r r', OperationRequest.Same r r' → p.invoke o r' = p.invoke o r

/-- All providers of a registry, those that are built and those that will be, look settings up. -/
def Registry.Orderless {σ : Type} (g : Registry (Provider σ)) : Prop :=
  ∀ key registration, g.registrations.get? key = some registration →
    (∀ serial, (registration.factory serial).Orderless) ∧
      ∀ i, registration.instance? = some i → i.provider.Orderless

section Orderless

variable {σ : Type}

theorem Provider.refusing_of_same {r r' : OperationRequest} (h : r.Same r') (name : String)
    (o : Operation) : (refusing name o r' : StateM σ Call) = refusing name o r := by
  unfold refusing
  rw [h.resourceType]

theorem Utility.orderless_provider (runner : Utility.Runner) :
    (Utility.provider runner : Provider σ).Orderless := by
  intro o r r' h
  obtain ⟨type, properties, config⟩ := r
  obtain ⟨type', properties', config'⟩ := r'
  obtain ⟨rfl, rfl, -⟩ := h
  cases o with
  | save =>
    rw [invoke_save, invoke_save]
    rfl
  | previewSave =>
    rw [invoke_previewSave, invoke_previewSave]
    rfl
  | get | delete => rfl

/-- The only setting that is asked for is the credential. -/
theorem Repository.readRequest_of_same {r r' : OperationRequest} (h : r.Same r') :
    Repository.readRequest r' = Repository.readRequest r := by
  unfold readRequest OperationRequest.configText? OperationRequest.read
  rw [h.importConfig, h.resourceType, h.properties]

theorem Repository.orderless_provider (service : Repository.Service) (carry : Carrier σ) :
    (Repository.provider service carry : Provider σ).Orderless := by
  intro o r r' h
  have hget : getRepository service carry r' = getRepository service carry r := by
    unfold getRepository
    rw [readRequest_of_same h, h.resourceType]
  cases o with
  | get => rw [invoke_get, invoke_get, hget, h.resourceType, Provider.refusing_of_same h]
  | save | previewSave | delete =>
    rw [invoke_refused (by decide), invoke_refused (by decide)]
    exact Provider.refusing_of_same h _ _

/-- The providers of the settings are told nothing by the order of the settings of an import. -/
theorem Settings.orderless_registry (s : Settings) (runner : String → Utility.Runner)
    (carry : Carrier σ) : (s.registry runner carry).Orderless := by
  intro key registration h
  obtain ⟨hnone, hprovides⟩ := Settings.provides_of_registry h
  refine ⟨fun serial => ?_, fun i hi => ?_⟩
  · have hp := hprovides serial
    generalize registration.factory serial = p at hp ⊢
    cases hp with
    | utility => exact Utility.orderless_provider _
    | repository => exact Repository.orderless_provider _ _
  · rw [hnone] at hi
    cases hi

end Orderless

end Provision
