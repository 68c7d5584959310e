import Provision.Proofs.Documents
import Provision.Proofs.Instances

/-!
# Planning a deployment

`structuralChecks` lists everything that must hold before a deployment starts: of the documents, of
the registry and of all references. Planning reports exactly these checks (`make_settles`).
-/

namespace Provision

/-! ## The checks -/

/-- A provider is registered under the key. -/
def isRegistered {π : Type} (g : Registry π) (key : ProviderKey) : Check := fun f =>
  g.contains key = false ∧ f = .provider (.notFound key)

/-- All references in the settings of an import are known; the settings have no order. -/
def configRefersToKnown (known : String → Bool) (i : ImportDeclaration) : Check := fun f =>
  ∃ e ∈ i.config.entries, FirstFault (refersToKnown known e.2) f

/-- The checks of an import. -/
def importChecks {π : Type} (g : Registry π) (known : String → Bool)
    (e : String × ImportDeclaration) : List Check :=
  [isRegistered g e.2.key, configRefersToKnown known e.2]

/-- The imports by alias, the resources in order, the outputs by name. -/
def planChecks {π : Type} (g : Registry π) (t : Template) : List Check :=
  t.imports.entries.flatMap (importChecks g t.parameters.contains) ++
    (t.resources.flatMap (fun r => refersToKnown t.parameters.contains r.properties) ++
      t.outputs.entries.flatMap fun e => refersToKnown t.parameters.contains e.2.value)

/-- Everything that must hold before a deployment starts, in the order in which faults count. -/
def structuralChecks {π : Type} (g : Registry π) (template parameters : String) : List Check :=
  documentChecks template parameters ++
    match Template.shape.ofText template with
    | .error _ => []
    | .ok t => planChecks g t

/-! ## Resolving imports -/

section Imports

variable {π : Type} {p : Parameters} {known : String → Bool}

theorem fillConfig_settles (hp : p.Binds known) (i : ImportDeclaration) :
    Settles id [configRefersToKnown known i] (Plan.fillConfig p i.config) := by
  unfold Plan.fillConfig
  refine .gather ?_
  rw [← List.append_nil (List.flatMap _ _)]
  exact (Settles.mapM fun e _ => (fill_settles hp e.2).map _).bind fun _ _ => .ok

theorem resolveImports_cons_fst (name : String) (i : ImportDeclaration)
    (rest : List (String × ImportDeclaration)) {g h : Registry π} {target : Instance π}
    (hr : g.resolve i.key = (.ok target, h)) :
    (Plan.resolveImports p ((name, i) :: rest) g).1 =
      (Plan.fillConfig p i.config >>= fun config => (Plan.resolveImports p rest h).1 >>=
        fun others => .ok ((name, ⟨target, config⟩) :: others)) := by
  rw [Plan.resolveImports, hr]
  cases hc : Plan.fillConfig p i.config with
  | error f => simp [bind, Except.bind]
  | ok config =>
    rcases hrest : Plan.resolveImports p rest h with ⟨_ | others, k⟩
    · simp [bind, Except.bind, hrest]
    · simp [bind, Except.bind, hrest]

theorem resolveImports_settles (hp : p.Binds known) (g₀ : Registry π) :
    ∀ (entries : List (String × ImportDeclaration)) (g : Registry π),
      (∀ key, g.contains key = g₀.contains key) →
        Settles id (entries.flatMap (importChecks g₀ known)) (Plan.resolveImports p entries g).1
  | [], _, _ => .ok
  | (name, i) :: rest, g, hg => by
    show Settles id ([isRegistered g₀ i.key] ++ ([configRefersToKnown known i] ++
      rest.flatMap (importChecks g₀ known))) _
    rcases hr : g.resolve i.key with ⟨_ | target, h⟩
    · obtain ⟨-, rfl, hno⟩ := Registry.resolve_error hr
      unfold Plan.resolveImports
      rw [hg] at hno
      rw [hr]
      exact .here ⟨hno, rfl⟩
    · obtain ⟨hext, -, hyes⟩ := Registry.resolve_ok hr
      rw [hg] at hyes
      have hregistered : ∀ c ∈ [isRegistered g₀ i.key], c.Passes := by
        intro c hc f hf
        rw [List.mem_singleton.1 hc] at hf
        rw [hf.1] at hyes
        cases hyes
      have ih := resolveImports_settles hp g₀ rest h
        fun key => (hext.contains_eq key).trans (hg key)
      rw [resolveImports_cons_fst name i rest hr, ← List.append_nil (rest.flatMap _)]
      exact .after hregistered ((fillConfig_settles hp i).bind fun _ _ => ih.bind fun _ _ => .ok)

/-- An import with its provider and its settings, each with its references replaced. -/
structure Resolved (p : Parameters) (h : Registry π) (e : ImportDeclaration)
    (i : ResolvedImport π) : Prop where
  target : h.instance? e.key = some i.target
  config : ∀ key,
    Option.Rel (fun v w => p.substitute v = .ok w) (e.config.get? key) (i.config.get? key)

theorem Resolved.mono {g h : Registry π} {e : ImportDeclaration} {i : ResolvedImport π}
    (hi : Resolved p g e i) (hg : g.Extends h) : Resolved p h e i :=
  ⟨hg.instance?_eq hi.target, hi.config⟩

theorem fillConfig_ok {config filled : Dictionary String Json}
    (h : Plan.fillConfig p config = .ok filled) (key : String) :
    Option.Rel (fun v w => p.substitute v = .ok w) (config.get? key) (filled.get? key) := by
  unfold Plan.fillConfig at h
  obtain ⟨entries, hm, h⟩ := bind_eq_ok.1 h
  obtain rfl : Dictionary.ofList entries = filled := Except.ok.inj h
  have hall : List.Forall₂ (fun e e' => e'.1 = e.1 ∧ p.substitute e.2 = .ok e'.2)
      config.entries entries :=
    (mapM_keyed_eq_ok.1 hm).imp fun _ _ he => ⟨he.1, mapError_eq_ok.1 he.2⟩
  have hd : (entries.map Prod.fst).Nodup := by
    rw [keys_eq_of_forall₂ (hall.imp fun _ _ => And.left)]
    exact config.distinct
  unfold Dictionary.get?
  rw [Dictionary.entries_ofList hd]
  exact findValue?_rel hall key

/-- Resolved imports stand under the names of the declared ones, in order. -/
theorem resolveImports_ok :
    ∀ {entries : List (String × ImportDeclaration)} {g h : Registry π}
      {imports : List (String × ResolvedImport π)},
      Plan.resolveImports p entries g = (.ok imports, h) →
        g.Extends h ∧
          List.Forall₂ (fun e i => i.1 = e.1 ∧ Resolved p h e.2 i.2) entries imports
  | [], g, h, imports, hr => by
    obtain ⟨rfl, rfl⟩ : [] = imports ∧ g = h := by simpa [Plan.resolveImports] using hr
    exact ⟨.refl g, .nil⟩
  | (name, i) :: rest, g, h, imports, hr => by
    rw [Plan.resolveImports] at hr
    rcases ht : g.resolve i.key with ⟨_ | target, g'⟩
    · simp [ht] at hr
    rw [ht] at hr
    obtain ⟨hext, hinst, -⟩ := Registry.resolve_ok ht
    cases hc : Plan.fillConfig p i.config with
    | error f => simp [hc] at hr
    | ok config =>
      rcases hrest : Plan.resolveImports p rest g' with ⟨_ | others, k⟩
      · simp [hc, hrest] at hr
      · obtain ⟨rfl, rfl⟩ : (name, ⟨target, config⟩) :: others = imports ∧ k = h := by
          simpa [hc, hrest] using hr
        obtain ⟨hext', hall⟩ := resolveImports_ok hrest
        have hhead : Resolved p g' i ⟨target, config⟩ := ⟨hinst, fillConfig_ok hc⟩
        exact ⟨hext.trans hext', .cons ⟨rfl, hhead.mono hext'⟩ hall⟩

/-- Every import that a resource may use is among the resolved ones. -/
theorem findValue?_of_resolveImports {t : Template} {g : Registry π}
    {imports : List (String × ResolvedImport π)} {name : String}
    (hr : (Plan.resolveImports p t.imports.entries g).1 = .ok imports)
    (hname : t.imports.contains name = true) : (findValue? name imports).isSome := by
  obtain ⟨-, hall⟩ := resolveImports_ok (Prod.ext hr rfl)
  rw [findValue?_isSome, keys_eq_of_forall₂ (hall.imp fun _ _ => And.left)]
  exact Table.contains_iff.1 hname

end Imports

/-! ## Planning -/

section Plans

variable {π : Type} {mode : Mode} {t : Template} {p : Parameters} {known : String → Bool}
  {imports : List (String × ResolvedImport π)}

theorem step_settles (hp : p.Binds known) {r : ResourceDeclaration}
    (hi : (findValue? r.importAlias imports).isSome) :
    Settles id (refersToKnown known r.properties) (Plan.step mode p imports r) := by
  unfold Plan.step
  obtain ⟨i, hi⟩ := Option.isSome_iff_exists.1 hi
  rw [hi, ← List.append_nil (refersToKnown _ _)]
  exact (fill_settles hp r.properties).bind fun _ _ => .ok

theorem output_settles (hp : p.Binds known) (o : OutputDeclaration) :
    Settles id (refersToKnown known o.value) (Plan.output p o) :=
  (fill_settles hp o.value).map _

theorem ofImports_settles (hp : p.Binds known)
    (hi : ∀ r ∈ t.resources, (findValue? r.importAlias imports).isSome) :
    Settles id (t.resources.flatMap (fun r => refersToKnown known r.properties) ++
      t.outputs.entries.flatMap fun e => refersToKnown known e.2.value)
      (Plan.ofImports mode t p imports) := by
  have houtputs : Settles id (t.outputs.entries.flatMap fun e => refersToKnown known e.2.value)
      (t.outputs.mapM (Plan.output p)) :=
    .map _ (.mapM fun e _ => (output_settles hp e.2).map _)
  unfold Plan.ofImports
  rw [← List.append_nil (t.outputs.entries.flatMap _)]
  exact (Settles.mapM fun r hr => step_settles hp (hi r hr)).bind fun _ _ =>
    houtputs.bind fun _ _ => .ok

theorem make_fst (mode : Mode) (template parameters : String) (g : Registry π) :
    (Plan.make mode template parameters g).1 =
      (Plan.readDocuments template parameters >>= fun (t, p) =>
        (Plan.resolveImports p t.imports.entries g).1 >>= Plan.ofImports mode t p) := by
  unfold Plan.make
  rcases Plan.readDocuments template parameters with f | ⟨t, p⟩
  · rfl
  · rcases hr : Plan.resolveImports p t.imports.entries g with ⟨_ | imports, h⟩
    · simp [bind, Except.bind, hr]
    · simp [bind, Except.bind, hr]

/-- **Planning reports the checks.** It refuses with the fault of the first that fails, and there is
a plan if all pass. -/
theorem make_settles (mode : Mode) (template parameters : String) (g : Registry π) :
    Settles id (structuralChecks g template parameters)
      (Plan.make mode template parameters g).1 := by
  rw [make_fst]
  refine (readDocuments_settles template parameters).bind fun d hd => ?_
  obtain ⟨t, p⟩ := d
  obtain ⟨hparse, ht, hp⟩ := readDocuments_ok hd
  rw [ht]
  refine (resolveImports_settles hp g _ g fun _ => rfl).bind fun imports hr => ?_
  exact ofImports_settles hp fun r hmem =>
    findValue?_of_resolveImports hr ((resources_of_parse hparse ht).2 r hmem)

end Plans

/-! ## Planning for a template -/

section Templates

variable {π : Type} {mode : Mode} {t : Template} {p : Parameters} {known : String → Bool}
  {g : Registry π}

/-- The steps for a template with bound parameters: the imports are resolved, and then there is a
step for every resource. -/
def Plan.stepsFor (mode : Mode) (t : Template) (p : Parameters) (g : Registry π) :
    Except DeployFault (List (Step π)) × Registry π :=
  match resolveImports p t.imports.entries g with
  | (.error f, h) => (.error f, h)
  | (.ok imports, h) => (t.resources.mapM (step mode p imports), h)

/-- The plan for a template with bound parameters: its steps, and then its outputs. -/
def Plan.ofTemplate (mode : Mode) (t : Template) (p : Parameters) (g : Registry π) :
    Except DeployFault (Plan π) × Registry π :=
  match stepsFor mode t p g with
  | (.error f, h) => (.error f, h)
  | (.ok steps, h) => ((t.outputs.mapM (output p)).map (Plan.mk steps), h)

/-- The plan for two documents is that for the template and the parameters that they hold. -/
theorem make_of_readDocuments {template parameters : String}
    (hd : Plan.readDocuments template parameters = .ok (t, p)) :
    Plan.make mode template parameters g = Plan.ofTemplate mode t p g := by
  unfold Plan.make Plan.ofTemplate Plan.stepsFor
  rw [hd]
  rcases hr : Plan.resolveImports p t.imports.entries g with ⟨f | imports, h⟩
  · simp only [hr]
  · simp only [hr]
    unfold Plan.ofImports
    cases t.resources.mapM (Plan.step mode p imports) with
    | error f => rfl
    | ok steps => cases t.outputs.mapM (Plan.output p) <;> rfl

theorem stepsFor_fst :
    (Plan.stepsFor mode t p g).1 = ((Plan.resolveImports p t.imports.entries g).1 >>=
      fun imports => t.resources.mapM (Plan.step mode p imports)) := by
  unfold Plan.stepsFor
  rcases Plan.resolveImports p t.imports.entries g with ⟨f | imports, h⟩ <;> rfl

/-- Where all imports are declared, the steps report the checks of the imports and of the
properties. -/
theorem stepsFor_settles (hp : p.Binds known)
    (hdeclared : ∀ r ∈ t.resources, t.imports.contains r.importAlias = true) :
    Settles id (t.imports.entries.flatMap (importChecks g known) ++
      t.resources.flatMap fun r => refersToKnown known r.properties)
      (Plan.stepsFor mode t p g).1 := by
  rw [stepsFor_fst]
  refine (resolveImports_settles hp g _ g fun _ => rfl).bind fun imports hr => ?_
  refine .mapM fun r hmem => ?_
  exact step_settles hp (findValue?_of_resolveImports hr (hdeclared r hmem))

end Templates

end Provision
