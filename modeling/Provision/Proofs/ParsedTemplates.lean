import Provision.Proofs.Calls
import Provision.Proofs.RecordParts

/-!
# Parsed templates

Resources fit some imports if no two have one name and all use an import that is there
(`ResourcesFit`). The check of a template goes through its resources with the names that it has
seen, and stops at the first that breaks one of the two rules after others that fit
(`checkResources_eq_error`); its name counts before its import. A template that passes is returned
as it is, with the resources in the order of the document.

Planning relies on this: the import of every resource is among the resolved ones, so that nothing
is in the way but a provider that is not registered or a parameter that has no value
(`Template.PlansSafely`).
-/

namespace Provision

/-! ## Resources that fit -/

/-- No two resources have one name, and the imports of all are declared. -/
structure ResourcesFit (imports : Table ImportDeclaration) (rs : List ResourceDeclaration) :
    Prop where
  names : (rs.map ResourceDeclaration.name).Nodup
  imports : ∀ r ∈ rs, r.importAlias ∈ imports.keys

/-- The rule that a resource breaks after others of the given names; that of its name counts
first. -/
inductive ResourceDeclaration.Breaks (imports : Table ImportDeclaration) (earlier : List String)
    (r : ResourceDeclaration) : TemplateFault → Prop
  | name (h : r.name ∈ earlier) : Breaks imports earlier r (.duplicateResource r.name)
  | importAlias (hnew : r.name ∉ earlier) (h : r.importAlias ∉ imports.keys) :
    Breaks imports earlier r (.undefinedImport r.name r.importAlias)

theorem ResourceDeclaration.Breaks.congr {imports : Table ImportDeclaration}
    {earlier earlier' : List String} {r : ResourceDeclaration} {f : TemplateFault}
    (h : r.Breaks imports earlier f) (hnames : ∀ name, name ∈ earlier ↔ name ∈ earlier') :
    r.Breaks imports earlier' f := by
  cases h with
  | name h => exact .name ((hnames _).1 h)
  | importAlias hnew h => exact .importAlias (fun hmem => hnew ((hnames _).2 hmem)) h

section Resources

variable {imports : Table ImportDeclaration} {seen : List String}
  {before rs after : List ResourceDeclaration} {r : ResourceDeclaration} {f : TemplateFault}

theorem ResourcesFit.concat (h : ResourcesFit imports rs)
    (hname : r.name ∉ rs.map ResourceDeclaration.name) (hi : r.importAlias ∈ imports.keys) :
    ResourcesFit imports (rs ++ [r]) where
  names := by
    rw [List.map_append]
    refine List.nodup_append.2 ⟨h.names, List.pairwise_singleton _ _, fun name hmem name' hr => ?_⟩
    rintro rfl
    rw [List.map_singleton, List.mem_singleton] at hr
    exact hname (hr ▸ hmem)
  imports r' hr' := by
    rcases List.mem_append.1 hr' with hmem | hmem
    · exact h.imports r' hmem
    · rw [List.mem_singleton.1 hmem]
      exact hi

/-- Resources fit, or there is a first one that breaks a rule. -/
theorem fit_or_broken (imports : Table ImportDeclaration) (rs : List ResourceDeclaration) :
    ResourcesFit imports rs ∨ ∃ before r after f, rs = before ++ r :: after ∧
      ResourcesFit imports before ∧ r.Breaks imports (before.map ResourceDeclaration.name) f := by
  induction rs using List.reverseRecOn with
  | nil => exact .inl ⟨List.nodup_nil, fun r hr => absurd hr List.not_mem_nil⟩
  | append_singleton rs r ih =>
    rcases ih with hfit | ⟨before, r', after, f, rfl, hfit, hb⟩
    · by_cases hname : r.name ∈ rs.map ResourceDeclaration.name
      · exact .inr ⟨rs, r, [], _, rfl, hfit, .name hname⟩
      · by_cases hi : r.importAlias ∈ imports.keys
        · exact .inl (hfit.concat hname hi)
        · exact .inr ⟨rs, r, [], _, rfl, hfit, .importAlias hname hi⟩
    · exact .inr ⟨before, r', after ++ [r], f, by simp, hfit, hb⟩

/-! ## The check of a template -/

/-- Resources are checked one after the other, each with the names of those before it seen. -/
theorem checkResources_append : Template.checkResources imports seen (before ++ rs) =
    (Template.checkResources imports seen before >>= fun _ => Template.checkResources imports
      ((before.map ResourceDeclaration.name).reverse ++ seen) rs) := by
  induction before generalizing seen with
  | nil => rfl
  | cons r before ih =>
    rw [List.cons_append, Template.checkResources, Template.checkResources]
    split_ifs
    · rfl
    · rw [ih, List.map_cons, List.reverse_cons, List.append_assoc]
      rfl
    · rfl

theorem checkResources_of_fit (h : ResourcesFit imports rs) :
    Template.checkResources imports [] rs = .ok () :=
  checkResources_of_nodup h.names (fun _ _ => List.not_mem_nil)
    fun r hr => Table.contains_iff.2 (h.imports r hr)

/-- A resource that breaks a rule is reported. -/
theorem checkResources_of_breaks (h : r.Breaks imports seen f) :
    Template.checkResources imports seen (r :: rs) = .error f := by
  cases h with
  | name h => rw [Template.checkResources, if_pos (by simpa using h)]
  | importAlias hnew h =>
    rw [Template.checkResources, if_neg (by simpa using hnew),
      if_neg fun hi => h (Table.contains_iff.1 hi)]

theorem checkResources_of_broken (hfit : ResourcesFit imports before)
    (hb : r.Breaks imports (before.map ResourceDeclaration.name) f) :
    Template.checkResources imports [] (before ++ r :: after) = .error f := by
  rw [checkResources_append, checkResources_of_fit hfit]
  exact checkResources_of_breaks (hb.congr fun name => by simp)

/-- A template is refused because of the first of its resources that breaks a rule. -/
theorem checkResources_eq_error : Template.checkResources imports [] rs = .error f ↔
    ∃ before r after, rs = before ++ r :: after ∧ ResourcesFit imports before ∧
      r.Breaks imports (before.map ResourceDeclaration.name) f := by
  constructor
  · intro h
    rcases fit_or_broken imports rs with hfit | ⟨before, r, after, f', rfl, hfit, hb⟩
    · rw [checkResources_of_fit hfit] at h
      cases h
    · rw [checkResources_of_broken hfit hb] at h
      obtain rfl := Except.error.inj h
      exact ⟨before, r, after, rfl, hfit, hb⟩
  · rintro ⟨before, r, after, rfl, hfit, hb⟩
    exact checkResources_of_broken hfit hb

end Resources

/-! ## Parsing -/

section Parsing

open Json

variable {text : String} {t : Template}

/-- The resources in the text of a template, in its order. -/
def Template.resourcesIn (text : String) : List Node :=
  (((Document.read text).root.part? "resources" 2).map Node.items).getD []

theorem Template.forall₂_of_ofText (ht : Template.shape.ofText text = .ok t) :
    List.Forall₂ (fun n r => ResourceDeclaration.shape.decode n = .ok r) (resourcesIn text)
      t.resources := by
  obtain ⟨⟨imports, parameters, resources, outputs, _⟩, hbuild, -, -, hread, -⟩ :=
    Shape.readFrom_of_decode (by decide) (Shape.decode_of_ofText ht)
  obtain rfl : (⟨imports, parameters, resources, outputs⟩ : Template) = t := Except.ok.inj hbuild
  exact hread.forall₂

theorem Template.parse_eq (ht : Template.shape.ofText text = .ok t) :
    Template.parse text = (Template.checkResources t.imports [] t.resources).map fun _ => t := by
  unfold parse
  rw [ht]
  rfl

/-- Parsing accepts the templates whose resources fit, and leaves them as they are. -/
structure Template.ParsesExactly (text : String) (t : Template) : Prop where
  /-- It succeeds exactly if the names of the resources are distinct and their imports declared. -/
  succeeds : (∃ t', Template.parse text = .ok t') ↔
    (t.resources.map ResourceDeclaration.name).Nodup ∧
      ∀ r ∈ t.resources, r.importAlias ∈ t.imports.keys
  /-- Then it gives the template as it was read. -/
  unchanged : ∀ t', Template.parse text = .ok t' → t' = t
  /-- The resources stand in the order of the text. -/
  ordered : List.Forall₂ (fun n r => ResourceDeclaration.shape.decode n = .ok r)
    (resourcesIn text) t.resources
  /-- Else a deployment names the first resource that breaks a rule after others that fit: its name
  was there before or, if not, its import is not declared. -/
  refuses : ∀ f, (Template.parse text).mapError DeployFault.ofTemplate = .error f ↔
    ∃ before r after, t.resources = before ++ r :: after ∧ ResourcesFit t.imports before ∧
      (r.name ∈ before.map ResourceDeclaration.name ∧
          f = .invalidTemplate ("duplicate resource name '" ++ r.name ++ "'") ∨
        r.name ∉ before.map ResourceDeclaration.name ∧ r.importAlias ∉ t.imports.keys ∧
          f = .invalidTemplate ("resource '" ++ r.name ++ "' references undefined import '" ++
            r.importAlias ++ "'"))

theorem Template.parsesExactly (ht : Template.shape.ofText text = .ok t) :
    Template.ParsesExactly text t where
  succeeds := by
    constructor
    · rintro ⟨t', h⟩
      obtain rfl : t' = t := eq_of_parse ht h
      obtain ⟨hnames, hdeclared⟩ := resources_of_parse h ht
      exact ⟨hnames, fun r hr => Table.contains_iff.1 (hdeclared r hr)⟩
    · rintro ⟨hnames, himports⟩
      rw [parse_eq ht, checkResources_of_fit ⟨hnames, himports⟩]
      exact ⟨t, rfl⟩
  unchanged t' := eq_of_parse ht
  ordered := forall₂_of_ofText ht
  refuses f := by
    rw [parse_eq ht]
    constructor
    · intro h
      obtain ⟨f', hcheck, rfl⟩ := mapError_eq_error.1 h
      obtain ⟨before, r, after, heq, hfit, hb⟩ := checkResources_eq_error.1 (map_eq_error.1 hcheck)
      refine ⟨before, r, after, heq, hfit, ?_⟩
      cases hb with
      | name hname => exact .inl ⟨hname, rfl⟩
      | importAlias hnew hi => exact .inr ⟨hnew, hi, rfl⟩
    · rintro ⟨before, r, after, heq, hfit, ⟨hname, rfl⟩ | ⟨hnew, hi, rfl⟩⟩
      · rw [heq, checkResources_of_broken hfit (.name hname)]
        rfl
      · rw [heq, checkResources_of_broken hfit (.importAlias hnew hi)]
        rfl

end Parsing

/-! ## Planning -/

section Planning

variable {t : Template} {π : Type} {mode : Mode} {p : Parameters} {g : Registry π}

/-- Some setting of an import or the properties of a resource refer to the parameter. -/
def Template.RefersTo (t : Template) (name : String) : Prop :=
  (∃ e ∈ t.imports.entries, ∃ s ∈ e.2.config.entries, name ∈ s.2.references) ∨
    ∃ r ∈ t.resources, name ∈ r.properties.references

/-- What can be in the way of the steps for a template. -/
inductive Template.Obstacle (t : Template) (p : Parameters) (g : Registry π) : DeployFault → Prop
  /-- The provider of an import is not registered. -/
  | unregistered {e : String × ImportDeclaration} (he : e ∈ t.imports.entries)
    (h : g.contains e.2.key = false) : Obstacle t p g (.provider (.notFound e.2.key))
  /-- There is a reference to a parameter without a value. -/
  | unknown {name : String} (hname : t.RefersTo name) (h : p.get? name = none) :
    Obstacle t p g (.invalidTemplate ("reference to unknown parameter '" ++ name ++ "'"))

/-- An undefined import is no obstacle: its text is another one. -/
theorem Template.Obstacle.ne_undefinedImport {f : DeployFault} (h : t.Obstacle p g f)
    (resource importAlias : String) :
    f ≠ .invalidTemplate ("resource '" ++ resource ++ "' references undefined import '" ++
      importAlias ++ "'") := by
  intro hf
  cases h with
  | unregistered _ _ => cases hf
  | unknown _ _ =>
    have hstart := congrArg (fun s => s.toList.take 3) (DeployFault.invalidTemplate.inj hf)
    simp at hstart

theorem unknown_of_firstFault {known : String → Bool} {j : Json} {f : DeployFault}
    (h : FirstFault (refersToKnown known j) f) :
    ∃ name ∈ j.references, known name = false ∧
      f = .invalidTemplate ("reference to unknown parameter '" ++ name ++ "'") := by
  obtain ⟨c, hc, hf⟩ := h.exists_mem
  obtain ⟨name, hname, rfl⟩ := List.mem_map.1 hc
  exact ⟨name, hname, hf⟩

/-- Where the imports of all resources are declared, nothing but an obstacle is in the way. -/
theorem obstacle_of_stepsFor {f : DeployFault}
    (hdeclared : ∀ r ∈ t.resources, t.imports.contains r.importAlias = true)
    (hf : (Plan.stepsFor mode t p g).1 = .error f) : t.Obstacle p g f := by
  rcases ((stepsFor_settles p.binds_isSome hdeclared).firstFault hf).of_append with h | h
  · obtain ⟨e, he, h⟩ := FirstFault.exists_of_flatMap h
    obtain ⟨c, hc, hcf⟩ := h.exists_mem
    rcases List.mem_pair.1 hc with rfl | rfl
    · obtain ⟨hkey, rfl⟩ := hcf
      exact .unregistered he hkey
    · obtain ⟨s, hs, h⟩ := hcf
      obtain ⟨name, hname, hnone, rfl⟩ := unknown_of_firstFault h
      exact .unknown (.inl ⟨e, he, s, hs, hname⟩) (by simpa using hnone)
  · obtain ⟨r, hr, h⟩ := FirstFault.exists_of_flatMap h
    obtain ⟨name, hname, hnone, rfl⟩ := unknown_of_firstFault h
    exact .unknown (.inr ⟨r, hr, hname⟩) (by simpa using hnone)

/-- The steps have the names of the resources. -/
theorem names_of_stepsFor {steps : List (Step π)} (h : (Plan.stepsFor mode t p g).1 = .ok steps) :
    steps.map Step.name = t.resources.map ResourceDeclaration.name := by
  rw [stepsFor_fst] at h
  obtain ⟨imports, hr, hsteps⟩ := bind_eq_ok.1 h
  obtain ⟨-, himports⟩ := resolveImports_ok (Prod.ext hr rfl)
  exact map_eq_of_forall₂ ((mapM_eq_ok_iff.1 hsteps).imp fun _ _ hx =>
    (stepFor_of_step himports hx).name)

/-- What can be in the way of a step is a provider or a parameter, and never an import. -/
structure Template.PlansSafely (t : Template) (mode : Mode) (p : Parameters) (g : Registry π) :
    Prop where
  /-- The import of every resource is among the resolved ones. -/
  imported : ∀ imports, (Plan.resolveImports p t.imports.entries g).1 = .ok imports →
    ∀ r ∈ t.resources, ∃ i, findValue? r.importAlias imports = some i
  /-- A provider is not registered, or a parameter has no value. -/
  refuses : ∀ f, (Plan.stepsFor mode t p g).1 = .error f → t.Obstacle p g f
  /-- No import is reported as undefined. -/
  never : ∀ resource importAlias, (Plan.stepsFor mode t p g).1 ≠
    .error (.invalidTemplate ("resource '" ++ resource ++ "' references undefined import '" ++
      importAlias ++ "'"))
  /-- There is one step for every resource, in order, and no two have one name. -/
  steps : ∀ steps, (Plan.stepsFor mode t p g).1 = .ok steps →
    steps.map Step.name = t.resources.map ResourceDeclaration.name ∧
      (steps.map Step.name).Nodup

theorem Template.plansSafely (hfit : ResourcesFit t.imports t.resources) :
    t.PlansSafely mode p g := by
  have hdeclared : ∀ r ∈ t.resources, t.imports.contains r.importAlias = true :=
    fun r hr => Table.contains_iff.2 (hfit.imports r hr)
  refine ⟨fun imports hr r hmem => ?_, fun f => obstacle_of_stepsFor hdeclared,
    fun resource importAlias h => ?_, fun steps h => ?_⟩
  · exact Option.isSome_iff_exists.1 (findValue?_of_resolveImports hr (hdeclared r hmem))
  · exact (obstacle_of_stepsFor hdeclared h).ne_undefinedImport resource importAlias rfl
  · have hnames := names_of_stepsFor h
    exact ⟨hnames, hnames ▸ hfit.names⟩

/-- **Parsing establishes what planning relies on.** A text that reads as a template is parsed
exactly if its resources fit, and else refused because of the first that does not. A parsed template
is planned without its imports ever being in the way, with one step for every resource. -/
theorem Template.parse_exact {text : String} (ht : Template.shape.ofText text = .ok t) :
    Template.ParsesExactly text t ∧
      ∀ t', Template.parse text = .ok t' → ∀ {π : Type} (mode : Mode) (p : Parameters)
        (g : Registry π), t'.PlansSafely mode p g := by
  refine ⟨parsesExactly ht, fun t' h π mode p g => ?_⟩
  obtain ⟨hnames, himports⟩ := (parsesExactly ht).succeeds.1 ⟨t', h⟩
  obtain rfl : t' = t := eq_of_parse ht h
  exact plansSafely ⟨hnames, himports⟩

/-- A template whose second resource has the name of the first, and no import either; all its
records are written as arrays. -/
def repeatedAndUndefined : String :=
  "[\x7b\"a\":[\"P\",\"1\"]\x7d,\x7b\x7d,[[\"x\",\"a\",\"T\"],[\"x\",\"b\",\"T\"]]]"

/-- A template whose resources fit. -/
def distinctAndDefined : String :=
  "[\x7b\"a\":[\"P\",\"1\"]\x7d,\x7b\x7d,[[\"x\",\"a\",\"T\"],[\"y\",\"a\",\"T\"]]]"

/-- The name is reported and not the import. A template with two names is planned for both. -/
theorem Template.parse_exact_repeated :
    (Template.parse repeatedAndUndefined).mapError DeployFault.ofTemplate =
        .error (.invalidTemplate "duplicate resource name 'x'") ∧
      ∃ t steps, Template.parse distinctAndDefined = .ok t ∧
        (Plan.stepsFor .normal t ⟨∅⟩ readers).1 = .ok steps ∧ steps.map Step.name = ["x", "y"] := by
  have hbroken : (Template.shape.ofText repeatedAndUndefined).toOption.map (fun t =>
      (t.resources.map fun r => (r.name, r.importAlias), t.imports.keys)) =
        some ([("x", "a"), ("x", "b")], ["a"]) := by
    decide +kernel
  have hfit : (Template.parse distinctAndDefined).toOption.map (fun t =>
      (t.resources.map ResourceDeclaration.name, (Plan.stepsFor .normal t ⟨∅⟩ readers).1.isOk)) =
        some (["x", "y"], true) := by
    decide +kernel
  constructor
  · cases ht : Template.shape.ofText repeatedAndUndefined with
    | error e => simp [ht, Except.toOption] at hbroken
    | ok t =>
      obtain ⟨hresources, hkeys⟩ :
          t.resources.map (fun r => (r.name, r.importAlias)) = [("x", "a"), ("x", "b")] ∧
            t.imports.keys = ["a"] := by
        simpa [ht, Except.toOption] using hbroken
      obtain ⟨r₁, rest, hrs, h₁, hrest⟩ := List.map_eq_cons_iff.1 hresources
      obtain ⟨r₂, rest', rfl, h₂, hnil⟩ := List.map_eq_cons_iff.1 hrest
      obtain rfl := List.map_eq_nil_iff.1 hnil
      obtain ⟨hname₁, hi₁⟩ := Prod.mk.inj h₁
      obtain ⟨hname₂, -⟩ := Prod.mk.inj h₂
      have hone : ResourcesFit t.imports [r₁] := ⟨List.pairwise_singleton _ _, by simp [hi₁, hkeys]⟩
      refine ((parse_exact ht).1.refuses _).2 ⟨[r₁], r₂, [], hrs, hone, .inl ⟨?_, ?_⟩⟩
      · simp [hname₁, hname₂]
      · rw [hname₂]
        rfl
  · cases hp : Template.parse distinctAndDefined with
    | error f => simp [hp, Except.toOption] at hfit
    | ok t =>
      rw [hp] at hfit
      obtain ⟨hnames, hok⟩ : t.resources.map ResourceDeclaration.name = ["x", "y"] ∧
          (Plan.stepsFor .normal t ⟨∅⟩ readers).1.isOk = true := by
        simpa [Except.toOption] using hfit
      cases hs : (Plan.stepsFor .normal t ⟨∅⟩ readers).1 with
      | error f =>
        rw [hs] at hok
        cases hok
      | ok steps =>
        have hsafe := (parse_exact (ofText_of_parse hp)).2 t hp .normal ⟨∅⟩ readers
        exact ⟨t, steps, rfl, hs, (hsafe.steps steps hs).1.trans hnames⟩

end Planning

end Provision
