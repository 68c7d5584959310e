import Provision.Proofs.Calls
import Provision.Proofs.Reordering

/-!
# Deployments in another order

Every dictionary in a deployment lists its entries in an order that nobody chose. `Orders` chooses
all of them: the order of the settings of each import, of the registrations, of the resolved imports
and of the settings in each request; `Engine.deployIn` is the deployment in these orders, and
`deployIn_asBuilt` the one that the engine carries out.

Two such deployments are planned stage by stage side by side. Only where the settings of an import
are filled does an order show: if several of them refer to unknown parameters, the first of them is
reported (`fillConfig_agree`). Everything else looks dictionaries up, so the plans are the same
(`makeIn_agree`), and the runs of two plans that are the same do the same (`run_reorders`).
-/

namespace Provision

/-! ## Computations side by side -/

/-- Both computations succeed with related values, or both fail with related faults. -/
inductive Agree {ε α β : Type} (E : ε → ε → Prop) (R : α → β → Prop) :
    Except ε α → Except ε β → Prop
  | ok {a : α} {b : β} (h : R a b) : Agree E R (.ok a) (.ok b)
  | error {f f' : ε} (h : E f f') : Agree E R (.error f) (.error f')

namespace Agree

variable {ε α β α' β' : Type} {E E' : ε → ε → Prop} {R : α → β → Prop} {S : α' → β' → Prop}
  {x : Except ε α} {y : Except ε β}

theorem cases_eq (h : Agree E R x y) :
    (∃ a b, x = .ok a ∧ y = .ok b ∧ R a b) ∨ ∃ f f', x = .error f ∧ y = .error f' ∧ E f f' := by
  cases h with
  | ok h => exact .inl ⟨_, _, rfl, rfl, h⟩
  | error h => exact .inr ⟨_, _, rfl, rfl, h⟩

theorem mono (h : Agree E R x y) (hE : ∀ f f', E f f' → E' f f') : Agree E' R x y := by
  cases h with
  | ok h => exact .ok h
  | error h => exact .error (hE _ _ h)

theorem bind {k : α → Except ε α'} {k' : β → Except ε β'} (h : Agree E R x y)
    (hk : ∀ a b, R a b → Agree E S (k a) (k' b)) : Agree E S (x >>= k) (y >>= k') := by
  cases h with
  | ok h => exact hk _ _ h
  | error h => exact .error h

theorem map {g : α → α'} {g' : β → β'} (h : Agree E R x y) (hg : ∀ a b, R a b → S (g a) (g' b)) :
    Agree E S (x.map g) (y.map g') := by
  cases h with
  | ok h => exact .ok (hg _ _ h)
  | error h => exact .error h

/-- One computation agrees with itself. -/
theorem refl (hE : ∀ f, E f f) (x : Except ε α) : Agree E Eq x x := by
  cases x with
  | ok a => exact .ok rfl
  | error f => exact .error (hE f)

theorem mapM {γ : Type} {f : γ → Except ε α} {f' : γ → Except ε β} :
    ∀ {l : List γ}, (∀ c ∈ l, Agree E R (f c) (f' c)) →
      Agree E (List.Forall₂ R) (l.mapM f) (l.mapM f')
  | [], _ => .ok .nil
  | c :: l, h => by
    rw [List.mapM_cons, List.mapM_cons]
    refine (h c List.mem_cons_self).bind fun a b hab => ?_
    exact (mapM fun c hc => h c (List.mem_cons_of_mem _ hc)).bind fun as bs hs =>
      .ok (.cons hab hs)

end Agree

/-! ## Orders -/

/-- The resolved imports differ in nothing but the order of the settings. -/
structure ResolvedImport.Reorders {π : Type} (i i' : ResolvedImport π) : Prop where
  target : i'.target = i.target
  config : i.config.Reorders i'.config

/-- The steps differ in nothing but the order of the settings in the request. -/
structure Step.Reorders {π : Type} (x x' : Step π) : Prop where
  name : x'.name = x.name
  operation : x'.operation = x.operation
  target : x'.target = x.target
  request : x.request.Same x'.request

/-- The plans differ in nothing but the order of the settings in requests. -/
structure Plan.Reorders {π : Type} (plan plan' : Plan π) : Prop where
  steps : List.Forall₂ Step.Reorders plan.steps plan'.steps
  outputs : plan'.outputs = plan.outputs

section Sameness

variable {π : Type}

theorem Registry.Reorders.refl (g : Registry π) : g.Reorders g := ⟨.refl _, rfl⟩

theorem ResolvedImport.Reorders.refl (i : ResolvedImport π) : i.Reorders i := ⟨rfl, .refl _⟩

theorem ResolvedImport.Reorders.symm {i i' : ResolvedImport π} (h : i.Reorders i') :
    i'.Reorders i := ⟨h.target.symm, h.config.symm⟩

theorem ResolvedImport.Reorders.trans {i i' i'' : ResolvedImport π} (h : i.Reorders i')
    (h' : i'.Reorders i'') : i.Reorders i'' :=
  ⟨h'.target.trans h.target, h.config.trans h'.config⟩

theorem Step.Reorders.refl (x : Step π) : x.Reorders x := ⟨rfl, rfl, rfl, rfl, rfl, fun _ => rfl⟩

theorem Step.Reorders.symm {x x' : Step π} (h : x.Reorders x') : x'.Reorders x where
  name := h.name.symm
  operation := h.operation.symm
  target := h.target.symm
  request := ⟨h.request.resourceType.symm, h.request.properties.symm,
    fun key => (h.request.importConfig key).symm⟩

theorem Step.Reorders.trans {x x' x'' : Step π} (h : x.Reorders x') (h' : x'.Reorders x'') :
    x.Reorders x'' where
  name := h'.name.trans h.name
  operation := h'.operation.trans h.operation
  target := h'.target.trans h.target
  request := ⟨h'.request.resourceType.trans h.request.resourceType,
    h'.request.properties.trans h.request.properties,
    fun key => (h'.request.importConfig key).trans (h.request.importConfig key)⟩

end Sameness

/-- The order of every dictionary in a deployment. -/
structure Orders (π : Type) where
  template : Template → Template
  registry : Registry π → Registry π
  imports : List (String × ResolvedImport π) → List (String × ResolvedImport π)
  step : Step π → Step π
  template_reorders : ∀ t : Template, t.Reorders (template t)
  registry_reorders : ∀ g : Registry π, g.Reorders (registry g)
  imports_reorders : ∀ is, ∃ js, is.Perm js ∧
    List.Forall₂ (Alike ResolvedImport.Reorders) js (imports is)
  step_reorders : ∀ x : Step π, x.Reorders (step x)

section Making

variable {π : Type}

/-- The orders in which the dictionaries were built. -/
def Orders.asBuilt : Orders π where
  template := id
  registry := id
  imports := id
  step := id
  template_reorders := Template.Reorders.refl
  registry_reorders := Registry.Reorders.refl
  imports_reorders is := ⟨is, .refl is, List.forall₂_same.2 fun e _ => ⟨rfl, .refl e.2⟩⟩
  step_reorders := Step.Reorders.refl

/-- The plan for two documents when the dictionaries have these orders. -/
def Plan.makeIn (o : Orders π) (mode : Mode) (template parameters : String) (g : Registry π) :
    Except DeployFault (Plan π) × Registry π :=
  match readDocuments template parameters with
  | .error f => (.error f, o.registry g)
  | .ok (t, p) =>
    match resolveImports p (o.template t).imports.entries (o.registry g) with
    | (.error f, h) => (.error f, h)
    | (.ok imports, h) =>
      ((ofImports mode (o.template t) p (o.imports imports)).map fun plan =>
        { plan with steps := plan.steps.map o.step }, h)

/-- Plans a deployment and carries out the plan, when the dictionaries have these orders. -/
def Engine.deployIn {σ : Type} (o : Orders (Provider σ)) (mode : Mode) : Orchestrator σ :=
  fun g template parameters token =>
    match (Plan.makeIn o mode template parameters g).1 with
    | .error f => pure (.instantly token (.error f))
    | .ok plan => do
      let r ← Engine.run plan.steps token 0
      pure (.ofRun token plan.outputs r)

theorem Plan.makeIn_fst (o : Orders π) (mode : Mode) (template parameters : String)
    (g : Registry π) :
    (Plan.makeIn o mode template parameters g).1 =
      (readDocuments template parameters >>= fun (t, p) =>
        (resolveImports p (o.template t).imports.entries (o.registry g)).1 >>= fun imports =>
          (ofImports mode (o.template t) p (o.imports imports)).map fun plan =>
            { plan with steps := plan.steps.map o.step }) := by
  unfold makeIn
  rcases readDocuments template parameters with f | ⟨t, p⟩
  · rfl
  · rcases hr : resolveImports p (o.template t).imports.entries (o.registry g) with
      ⟨_ | imports, h⟩
    · simp [bind, Except.bind, hr]
    · simp [bind, Except.bind, hr]

theorem Plan.makeIn_asBuilt (mode : Mode) (template parameters : String) (g : Registry π) :
    Plan.makeIn .asBuilt mode template parameters g = Plan.make mode template parameters g := by
  have hmap (x : Except DeployFault (Plan π)) :
      x.map (fun plan => ⟨plan.steps, plan.outputs⟩) = x := by
    cases x <;> rfl
  unfold makeIn make
  rcases readDocuments template parameters with f | ⟨t, p⟩
  · rfl
  · rcases hr : resolveImports p t.imports.entries g with ⟨f | imports, h⟩
    · simp [Orders.asBuilt, hr]
    · simpa [Orders.asBuilt, hr] using hmap _

/-- The engine deploys in the orders in which dictionaries are built. -/
theorem Engine.deployIn_asBuilt {σ : Type} (mode : Mode) :
    (Engine.deployIn .asBuilt mode : Orchestrator σ) = Engine.deploy mode := by
  funext g template parameters token
  unfold deployIn
  rw [Plan.makeIn_asBuilt]
  rfl

end Making

/-! ## Unknown parameters in settings -/

/-- The first parameter without a value that a value refers to. -/
def Parameters.firstUnknown? (p : Parameters) (j : Json) : Option String :=
  j.references.find? fun name => (p.get? name).isNone

/-- Some setting of the import refers to this parameter, which is the first in it without a
value. -/
def ImportDeclaration.Lacks (p : Parameters) (i : ImportDeclaration) (name : String) : Prop :=
  ∃ e ∈ i.config.entries, p.firstUnknown? e.2 = some name

/-- What is reported of a parameter without a value. -/
def DeployFault.unknown (name : String) : DeployFault := .ofTemplate (.unknownParameter name)

section Settings

variable {p : Parameters} {name : String} {f : DeployFault}

theorem firstFault_isKnown {known : String → Bool} {names : List String}
    (h : FirstFault (names.map (isKnown known)) f) :
    ∃ name, names.find? (fun name => !known name) = some name ∧ f = .unknown name := by
  induction names with
  | nil => cases h
  | cons n names ih =>
    rw [List.find?_cons]
    cases hn : known n with
    | false =>
      cases h with
      | here hf => exact ⟨n, rfl, hf.2⟩
      | later hp _ => exact absurd ⟨hn, rfl⟩ (hp (.unknown n))
    | true =>
      cases h with
      | here hf =>
        rw [hf.1] at hn
        cases hn
      | later _ h => exact ih h

theorem fill_error {j : Json} (h : Plan.fill p j = .error f) :
    ∃ name, p.firstUnknown? j = some name ∧ f = .unknown name := by
  obtain ⟨name, hname, hf⟩ := firstFault_isKnown ((fill_settles p.binds_isSome j).firstFault h)
  refine ⟨name, ?_, hf⟩
  unfold Parameters.firstUnknown?
  simpa using hname

theorem fill_ok {j w : Json} (h : Plan.fill p j = .ok w) : p.firstUnknown? j = none := by
  have hpasses := (fill_settles p.binds_isSome j).passes h
  unfold Parameters.firstUnknown?
  rw [List.find?_eq_none]
  intro name hname hnone
  refine hpasses _ (List.mem_map_of_mem hname) (.unknown name) ⟨?_, rfl⟩
  simpa using hnone

/-- A value is refused because of the first parameter in it that has no value. -/
theorem fill_of_firstUnknown? {j : Json} (h : p.firstUnknown? j = some name) :
    Plan.fill p j = .error (.unknown name) := by
  cases hfill : Plan.fill p j with
  | ok w =>
    rw [fill_ok hfill] at h
    cases h
  | error f =>
    obtain ⟨name', hname, rfl⟩ := fill_error hfill
    obtain rfl : name' = name := Option.some.inj (hname.symm.trans h)
    rfl

variable {i i' : ImportDeclaration}

theorem fillConfig_error (h : Plan.fillConfig p i.config = .error f) :
    ∃ name, i.Lacks p name ∧ f = .unknown name := by
  cases (fillConfig_settles p.binds_isSome i).firstFault h with
  | here hf =>
    obtain ⟨e, he, hf⟩ := hf
    obtain ⟨name, hname, hf⟩ := firstFault_isKnown hf
    refine ⟨name, ⟨e, he, ?_⟩, hf⟩
    unfold Parameters.firstUnknown?
    simpa using hname
  | later _ h => cases h

theorem not_lacks_of_fillConfig {config : Dictionary String Json}
    (h : Plan.fillConfig p i.config = .ok config) (name : String) : ¬ i.Lacks p name := by
  rintro ⟨e, he, hname⟩
  have hpasses := (fillConfig_settles p.binds_isSome i).passes h _ List.mem_cons_self
  have hfault := (fill_settles p.binds_isSome e.2).firstFault (fill_of_firstUnknown? hname)
  exact hpasses _ ⟨e, he, hfault⟩

/-- Which parameters are missing has nothing to do with the order of the settings. -/
theorem ImportDeclaration.Reorders.lacks_iff (h : i.Reorders i') :
    i'.Lacks p name ↔ i.Lacks p name := by
  unfold Lacks
  simp only [h.config.mem_iff]

/-- The settings of an import are filled alike in every order, or refused in every order because of
some parameter that is missing. -/
theorem fillConfig_agree (h : i.Reorders i') :
    Agree (fun f f' => ∃ n n', i.Lacks p n ∧ i.Lacks p n' ∧ f = .unknown n ∧ f' = .unknown n')
      Dictionary.Reorders (Plan.fillConfig p i.config) (Plan.fillConfig p i'.config) := by
  cases hi : Plan.fillConfig p i.config with
  | error f =>
    obtain ⟨n, hn, rfl⟩ := fillConfig_error hi
    cases hi' : Plan.fillConfig p i'.config with
    | error f' =>
      obtain ⟨n', hn', rfl⟩ := fillConfig_error hi'
      exact .error ⟨n, n', hn, h.lacks_iff.1 hn', rfl, rfl⟩
    | ok config' => exact absurd (h.lacks_iff.2 hn) (not_lacks_of_fillConfig hi' n)
  | ok config =>
    cases hi' : Plan.fillConfig p i'.config with
    | error f' =>
      obtain ⟨n', hn', -⟩ := fillConfig_error hi'
      exact absurd (h.lacks_iff.1 hn') (not_lacks_of_fillConfig hi n')
    | ok config' =>
      refine .ok (Dictionary.reorders_iff.2 fun key => ?_)
      have hrel := fillConfig_ok hi key
      have hrel' := fillConfig_ok hi' key
      rw [h.config.get?] at hrel'
      generalize i.config.get? key = v at hrel hrel'
      generalize config.get? key = w at hrel ⊢
      generalize config'.get? key = w' at hrel' ⊢
      cases hrel with
      | none =>
        cases hrel'
        rfl
      | some hw =>
        cases hrel' with
        | some hw' => rw [Except.ok.inj (hw.symm.trans hw')]

end Settings

/-! ## Resolving imports in another order -/

/-- Planning gets as far as this import, which is registered, and stops there because of a parameter
that is missing. -/
inductive StopsAt {π : Type} (p : Parameters) (g : Registry π) :
    List (String × ImportDeclaration) → ImportDeclaration → Prop
  | here {name missing : String} {i : ImportDeclaration}
      {rest : List (String × ImportDeclaration)} (hkey : g.contains i.key = true)
      (hlacks : i.Lacks p missing) : StopsAt p g ((name, i) :: rest) i
  | later {name : String} {i j : ImportDeclaration} {rest : List (String × ImportDeclaration)}
      (hkey : g.contains i.key = true) (hfilled : ∀ missing, ¬ i.Lacks p missing)
      (h : StopsAt p g rest j) : StopsAt p g ((name, i) :: rest) j

/-- Planning stops at one import, of which one fault or the other reports a missing parameter. -/
def Undecided {π : Type} (p : Parameters) (g : Registry π)
    (entries : List (String × ImportDeclaration)) (f f' : DeployFault) : Prop :=
  ∃ i n n', StopsAt p g entries i ∧ i.Lacks p n ∧ i.Lacks p n' ∧ f = .unknown n ∧ f' = .unknown n'

section Resolving

variable {π : Type} {p : Parameters} {g g' g₀ : Registry π} {key : ProviderKey}

theorem Dictionary.Reorders.insert {κ ν : Type} [DecidableEq κ] {d d' : Dictionary κ ν}
    (h : d.Reorders d') (key : κ) (value : ν) :
    (d.insert key value).Reorders (d'.insert key value) := by
  refine reorders_iff.2 fun k => ?_
  rw [get?_insert, get?_insert, h.get?]

/-- A key resolves to the same instance, and leaves the registries alike. -/
theorem Registry.Reorders.resolve (h : g.Reorders g') (key : ProviderKey) :
    (g'.resolve key).1 = (g.resolve key).1 ∧ (g.resolve key).2.Reorders (g'.resolve key).2 := by
  have hkey := h.registrations.get? key
  cases hg : g.registrations.get? key with
  | none =>
    rw [hg] at hkey
    rw [resolve_of_missing hg, resolve_of_missing hkey]
    exact ⟨rfl, h⟩
  | some registration =>
    obtain ⟨factory, _ | i⟩ := registration
    · rw [hg] at hkey
      rw [resolve_of_factory hg, resolve_of_factory hkey, h.built]
      exact ⟨rfl, h.registrations.insert _ _, rfl⟩
    · rw [hg] at hkey
      rw [resolve_of_instance hg, resolve_of_instance hkey]
      exact ⟨rfl, h⟩

theorem Registry.Reorders.contains (h : g.Reorders g') (key : ProviderKey) :
    g'.contains key = g.contains key := by
  unfold Registry.contains Dictionary.contains
  rw [h.registrations.get?]

theorem Undecided.later {name : String} {i : ImportDeclaration}
    {rest : List (String × ImportDeclaration)} {f f' : DeployFault}
    (hkey : g.contains i.key = true) (hfilled : ∀ missing, ¬ i.Lacks p missing)
    (h : Undecided p g rest f f') : Undecided p g ((name, i) :: rest) f f' := by
  obtain ⟨j, n, n', hstops, h⟩ := h
  exact ⟨j, n, n', .later hkey hfilled hstops, h⟩

section Step

variable {name : String} {i : ImportDeclaration} {rest : List (String × ImportDeclaration)}
  {h : Registry π} {target : Instance π} (hr : g.resolve i.key = (.ok target, h))

include hr

theorem resolveImports_of_unfilled {f : DeployFault} (hf : Plan.fillConfig p i.config = .error f) :
    Plan.resolveImports p ((name, i) :: rest) g = (.error f, h) := by
  rw [Plan.resolveImports, hr]
  simp only [hf]

theorem resolveImports_of_filled {config : Dictionary String Json}
    (hf : Plan.fillConfig p i.config = .ok config) :
    Plan.resolveImports p ((name, i) :: rest) g =
      ((Plan.resolveImports p rest h).1.map ((name, ⟨target, config⟩) :: ·),
        (Plan.resolveImports p rest h).2) := by
  rw [Plan.resolveImports, hr]
  simp only [hf]
  rcases Plan.resolveImports p rest h with ⟨_ | others, k⟩ <;> rfl

end Step

/-- Imports resolve alike in all orders of their settings and of the registrations, up to the choice
among the parameters that one import is missing. -/
theorem resolveImports_agree {es₀ es es' : List (String × ImportDeclaration)} {g g' : Registry π}
    (hes : List.Forall₂ (Alike ImportDeclaration.Reorders) es₀ es)
    (hes' : List.Forall₂ (Alike ImportDeclaration.Reorders) es₀ es') (hg : g.Reorders g')
    (hc : ∀ key, g.contains key = g₀.contains key) :
    Agree (fun f f' => f = f' ∨ Undecided p g₀ es₀ f f')
        (List.Forall₂ (Alike ResolvedImport.Reorders))
        (Plan.resolveImports p es g).1 (Plan.resolveImports p es' g').1 ∧
      (Plan.resolveImports p es g).2.Reorders (Plan.resolveImports p es' g').2 := by
  induction hes generalizing es' g g' with
  | nil =>
    cases hes'
    exact ⟨.ok .nil, hg⟩
  | @cons e₀ e es₀ es he _ ih =>
    cases hes' with
    | @cons _ e' _ es' he' hes' =>
    obtain ⟨name₀, i₀⟩ := e₀
    obtain ⟨name, i⟩ := e
    obtain ⟨name', i'⟩ := e'
    obtain ⟨rfl, hi⟩ : name = name₀ ∧ i₀.Reorders i := he
    obtain ⟨rfl, hi'⟩ : name' = name ∧ i₀.Reorders i' := he'
    obtain ⟨hsame, hh⟩ := hg.resolve i₀.key
    rcases hr : g.resolve i₀.key with ⟨result, h⟩
    rcases hr' : g'.resolve i₀.key with ⟨result', h'⟩
    rw [hr, hr'] at hsame hh
    obtain rfl : result' = result := hsame
    cases result' with
    | error f =>
      rw [Plan.resolveImports, Plan.resolveImports, hi.key, hi'.key, hr, hr']
      exact ⟨.error (.inl rfl), hh⟩
    | ok target =>
      obtain ⟨hext, -, hyes⟩ := Registry.resolve_ok hr
      rw [hc] at hyes
      rw [← hi.key] at hr
      rw [← hi'.key] at hr'
      rcases (fillConfig_agree (hi.symm.trans hi')).cases_eq with
        ⟨config, config', hf, hf', hconfig⟩ | ⟨f, f', hf, hf', n, n', hn, hn', rfl, rfl⟩
      · rw [resolveImports_of_filled hr hf, resolveImports_of_filled hr' hf']
        have hfilled : ∀ missing, ¬ i₀.Lacks p missing := fun missing hm =>
          not_lacks_of_fillConfig hf missing (hi.lacks_iff.2 hm)
        obtain ⟨hagree, hk⟩ := ih hes' hh fun key => (hext.contains_eq key).trans (hc key)
        refine ⟨(hagree.mono fun f f' hff' => ?_).map fun _ _ hall => ?_, hk⟩
        · exact hff'.imp_right (Undecided.later hyes hfilled)
        · exact .cons ⟨rfl, rfl, hconfig⟩ hall
      · rw [resolveImports_of_unfilled hr hf, resolveImports_of_unfilled hr' hf']
        have hlacks := hi.lacks_iff.1 hn
        exact ⟨.error (.inr ⟨i₀, n, n', .here hyes hlacks, hlacks, hi.lacks_iff.1 hn', rfl, rfl⟩),
          hh⟩

end Resolving

/-! ## Planning in another order -/

section Planning

variable {π : Type} {p : Parameters} {mode : Mode}
  {imports imports' : List (String × ResolvedImport π)}

/-- Whoever looks an import up finds the same in both lists, up to the order of its settings. -/
def LooksUpAlike (imports imports' : List (String × ResolvedImport π)) : Prop :=
  ∀ name, Option.Rel ResolvedImport.Reorders (findValue? name imports) (findValue? name imports')

theorem LooksUpAlike.symm (h : LooksUpAlike imports imports') : LooksUpAlike imports' imports := by
  intro name
  have hn := h name
  generalize findValue? name imports = x at hn ⊢
  generalize findValue? name imports' = y at hn ⊢
  cases hn with
  | none => exact .none
  | some hi => exact .some hi.symm

theorem LooksUpAlike.trans {imports'' : List (String × ResolvedImport π)}
    (h : LooksUpAlike imports imports') (h' : LooksUpAlike imports' imports'') :
    LooksUpAlike imports imports'' := by
  intro name
  have hn := h name
  have hn' := h' name
  generalize findValue? name imports = x at hn ⊢
  generalize findValue? name imports' = y at hn hn'
  generalize findValue? name imports'' = z at hn' ⊢
  cases hn with
  | none => exact hn'
  | some hi =>
    cases hn' with
    | some hi' => exact .some (hi.trans hi')

theorem looksUpAlike_of_forall₂
    (h : List.Forall₂ (Alike ResolvedImport.Reorders) imports imports') :
    LooksUpAlike imports imports' := findValue?_rel h

theorem findValue?_of_perm {κ ν : Type} [DecidableEq κ] {l l' : List (κ × ν)} (h : l.Perm l')
    (hn : (l.map Prod.fst).Nodup) (key : κ) : findValue? key l' = findValue? key l := by
  have hn' : (l'.map Prod.fst).Nodup := (h.map _).nodup_iff.1 hn
  refine Option.ext fun value => ⟨fun hv => ?_, fun hv => ?_⟩
  · exact findValue?_of_mem hn (h.mem_iff.2 (mem_of_findValue? hv))
  · exact findValue?_of_mem hn' (h.mem_iff.1 (mem_of_findValue? hv))

/-- The order of the aliases is not seen. -/
theorem Orders.looksUpAlike (o : Orders π) (hn : (imports.map Prod.fst).Nodup) :
    LooksUpAlike imports (o.imports imports) := by
  obtain ⟨js, hperm, hall⟩ := o.imports_reorders imports
  intro name
  rw [← findValue?_of_perm hperm hn]
  exact looksUpAlike_of_forall₂ hall name

theorem step_agree (h : LooksUpAlike imports imports') (r : ResourceDeclaration) :
    Agree Eq Step.Reorders (Plan.step mode p imports r) (Plan.step mode p imports' r) := by
  have hr := h r.importAlias
  unfold Plan.step
  generalize findValue? r.importAlias imports = x at hr ⊢
  generalize findValue? r.importAlias imports' = y at hr ⊢
  cases hr with
  | none => exact .error rfl
  | some hi =>
    refine (Agree.refl (fun _ => rfl) (Plan.fill p r.properties)).bind ?_
    rintro properties _ rfl
    exact .ok ⟨rfl, rfl, hi.target, rfl, rfl, hi.config.get?⟩

theorem ofImports_agree {t t' : Template} (hresources : t'.resources = t.resources)
    (houtputs : t'.outputs = t.outputs) (h : LooksUpAlike imports imports') :
    Agree Eq Plan.Reorders (Plan.ofImports mode t p imports)
      (Plan.ofImports mode t' p imports') := by
  unfold Plan.ofImports
  rw [hresources, houtputs]
  refine (Agree.mapM fun r _ => step_agree h r).bind fun steps steps' hsteps => ?_
  refine (Agree.refl (fun _ => rfl) (t.outputs.mapM (Plan.output p))).bind ?_
  rintro outputs _ rfl
  exact .ok ⟨hsteps, rfl⟩

/-- Whatever orders the requests of two plans have, the plans are the same if they were before. -/
theorem Plan.Reorders.inOrders {plan plan' : Plan π} (h : plan.Reorders plan') (o o' : Orders π) :
    Plan.Reorders { plan with steps := plan.steps.map o.step }
      { plan' with steps := plan'.steps.map o'.step } where
  steps := by
    rw [List.forall₂_map_left_iff, List.forall₂_map_right_iff]
    exact h.steps.imp fun x x' hx =>
      ((o.step_reorders x).symm.trans hx).trans (o'.step_reorders x')
  outputs := h.outputs

/-- Planning these documents stops at this import, which is missing this parameter. -/
def Plan.MayReport (template parameters : String) (g : Registry π) (i : ImportDeclaration)
    (name : String) : Prop :=
  ∃ t p, readDocuments template parameters = .ok (t, p) ∧ StopsAt p g t.imports.entries i ∧
    i.Lacks p name

/-- The faults are the same, or each reports a parameter that the same import is missing. -/
def Plan.SameFault (template parameters : String) (g : Registry π) (f f' : DeployFault) : Prop :=
  f = f' ∨ ∃ i n n', MayReport template parameters g i n ∧ MayReport template parameters g i n' ∧
    f = .unknown n ∧ f' = .unknown n'

/-- Whatever orders registrations have, the registries are the same if they were before. -/
theorem Orders.registries_reorder (o o' : Orders π) (g : Registry π) :
    (o.registry g).Reorders (o'.registry g) := by
  have h := o.registry_reorders g
  have h' := o'.registry_reorders g
  exact ⟨h.registrations.symm.trans h'.registrations, h'.built.trans h.built.symm⟩

theorem nodup_resolveImports {t : Template} {g h : Registry π}
    {imports : List (String × ResolvedImport π)}
    (hr : Plan.resolveImports p t.imports.entries g = (.ok imports, h)) :
    (imports.map Prod.fst).Nodup := by
  obtain ⟨-, hresolved⟩ := resolveImports_ok hr
  rw [keys_eq_of_forall₂ (hresolved.imp fun _ _ => And.left)]
  exact t.imports.nodup_keys

/-- Planning in two orders goes alike. -/
theorem makeIn_agree (o o' : Orders π) (mode : Mode) (template parameters : String)
    (g : Registry π) :
    Agree (Plan.SameFault template parameters g) Plan.Reorders
        (Plan.makeIn o mode template parameters g).1 (Plan.makeIn o' mode template parameters g).1 ∧
      (Plan.makeIn o mode template parameters g).2.Reorders
        (Plan.makeIn o' mode template parameters g).2 := by
  have hg := o.registries_reorder o' g
  unfold Plan.makeIn
  rcases hd : Plan.readDocuments template parameters with f | ⟨t, p⟩
  · exact ⟨.error (.inl rfl), hg⟩
  · have ht := o.template_reorders t
    have ht' := o'.template_reorders t
    have hcontains : ∀ key, (o.registry g).contains key = g.contains key :=
      (o.registry_reorders g).contains
    have hagree := resolveImports_agree (p := p) ht.imports ht'.imports hg hcontains
    rcases hr : Plan.resolveImports p (o.template t).imports.entries (o.registry g) with ⟨r, h⟩
    rcases hr' : Plan.resolveImports p (o'.template t).imports.entries (o'.registry g) with
      ⟨r', h'⟩
    rw [hr, hr'] at hagree
    obtain ⟨hagree, hh⟩ := hagree
    simp only [hr, hr']
    cases hagree with
    | error hf =>
      refine ⟨.error (hf.imp_right ?_), hh⟩
      rintro ⟨i, n, n', hstops, hn, hn', rfl, rfl⟩
      exact ⟨i, n, n', ⟨t, p, hd, hstops, hn⟩, ⟨t, p, hd, hstops, hn'⟩, rfl, rfl⟩
    | @ok imports imports' hall =>
      refine ⟨?_, hh⟩
      have hlooks : LooksUpAlike (o.imports imports) (o'.imports imports') :=
        ((o.looksUpAlike (nodup_resolveImports hr)).symm.trans
          (looksUpAlike_of_forall₂ hall)).trans (o'.looksUpAlike (nodup_resolveImports hr'))
      have hplans : Agree Eq Plan.Reorders
          (Plan.ofImports mode (o.template t) p (o.imports imports))
          (Plan.ofImports mode (o'.template t) p (o'.imports imports')) :=
        ofImports_agree (ht'.resources.trans ht.resources.symm)
          (ht'.outputs.trans ht.outputs.symm) hlooks
      exact (hplans.mono fun _ _ => .inl).map fun _ _ hplan => hplan.inOrders o o'

end Planning

end Provision
