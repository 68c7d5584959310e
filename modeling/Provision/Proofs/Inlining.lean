import Provision.Proofs.Binding
import Provision.Proofs.Planning
import Provision.Proofs.Running
import Provision.Proofs.Substitution

/-!
# Inlining parameters

A template carries over from one set of parameters to another one if every value of it that can be
filled with the first is filled with the second, and with the same value
(`Template.CarriesOver`). Planning reads of the parameters nothing else, so the plan is the same
(`ofTemplate_of_carriesOver`).

A template carries over to more parameters (`carriesOver_self`), and with its parameters put in to
any others at all, as long as no bound value holds a reference (`carriesOver_inline`).
-/

namespace Provision

/-! ## Values without references -/

namespace Json

theorem itemReferences_eq_nil {items : List Json} :
    itemReferences items = [] ↔ ∀ j ∈ items, j.references = [] := by
  induction items with
  | nil => simp [itemReferences]
  | cons j items ih => rw [itemReferences, List.append_eq_nil_iff, ih, List.forall_mem_cons]

theorem memberReferences_eq_nil {members : List (String × Json)} :
    memberReferences members = [] ↔ ∀ m ∈ members, m.2.references = [] := by
  induction members with
  | nil => simp [memberReferences]
  | cons m members ih => rw [memberReferences, List.append_eq_nil_iff, ih, List.forall_mem_cons]

end Json

namespace Parameters

variable {p q : Parameters} {v w : Json}

/-- Without references there is nothing to replace. -/
theorem substitute_of_references (h : v.references = []) (q : Parameters) :
    q.substitute v = .ok v := by
  induction v using Json.induction with
  | null | bool b | number n => rfl
  | string s =>
    have hs : reference? s = none := Option.toList_eq_nil_iff.1 h
    unfold substitute resolve
    rw [hs]
  | array items ih =>
    have hitems := Json.itemReferences_eq_nil.1 h
    exact substitute_array_eq_ok.2
      ⟨items, rfl, List.forall₂_same.2 fun j hj => ih j hj (hitems j hj)⟩
  | object members ih =>
    have hmembers := Json.memberReferences_eq_nil.1 h
    exact substitute_object_eq_ok.2
      ⟨members, rfl, List.forall₂_same.2 fun m hm => ⟨rfl, ih m hm (hmembers m hm)⟩⟩

/-- No bound value holds a reference. -/
def Plain (p : Parameters) : Prop :=
  ∀ name value, p.get? name = some value → value.references = []

/-- No reference is left when plain values were put in. -/
theorem Plain.references_of_substitute (hp : p.Plain) (h : p.substitute v = .ok w) :
    w.references = [] := by
  induction v using Json.induction generalizing w with
  | null | bool b | number n =>
    obtain rfl := Except.ok.inj h
    rfl
  | string s =>
    rw [substitute] at h
    cases resolve_eq_ok.1 h with
    | bound hvalue => exact hp _ _ hvalue
    | text htext =>
      show (reference? s).toList = []
      rw [reference?_eq_none.2 htext]
      rfl
  | array items ih =>
    obtain ⟨items', rfl, hall⟩ := substitute_array_eq_ok.1 h
    refine Json.itemReferences_eq_nil.2 fun k hk => ?_
    obtain ⟨j, hj, hjk⟩ := exists_of_mem_of_forall₂ hall hk
    exact ih j hj hjk
  | object members ih =>
    obtain ⟨members', rfl, hall⟩ := substitute_object_eq_ok.1 h
    refine Json.memberReferences_eq_nil.2 fun m' hm' => ?_
    obtain ⟨m, hm, -, hmm'⟩ := exists_of_mem_of_forall₂ hall hm'
    exact ih m hm hmm'

/-- The other parameters bind the same values, and maybe others besides. -/
def ExtendsTo (p q : Parameters) : Prop :=
  ∀ name value, p.get? name = some value → q.get? name = some value

/-- Further parameters make no difference to a value that can be filled without them. -/
theorem ExtendsTo.substitute (hq : p.ExtendsTo q) (h : p.substitute v = .ok w) :
    q.substitute v = .ok w := by
  induction v using Json.induction generalizing w with
  | null | bool b | number n => exact h
  | string s =>
    rw [Parameters.substitute] at h ⊢
    refine resolve_eq_ok.2 ?_
    cases resolve_eq_ok.1 h with
    | bound hvalue => exact .bound (hq _ _ hvalue)
    | text htext => exact .text htext
  | array items ih =>
    obtain ⟨items', rfl, hall⟩ := substitute_array_eq_ok.1 h
    exact substitute_array_eq_ok.2 ⟨items', rfl, forall₂_imp_of_mem (fun j hj _ => ih j hj) hall⟩
  | object members ih =>
    obtain ⟨members', rfl, hall⟩ := substitute_object_eq_ok.1 h
    exact substitute_object_eq_ok.2
      ⟨members', rfl, forall₂_imp_of_mem (fun m hm _ => And.imp_right (ih m hm)) hall⟩

/-- What one value is filled with under some parameters, another one is under others. -/
def CarriesOver (p q : Parameters) (v v' : Json) : Prop :=
  ∀ w, p.substitute v = .ok w → q.substitute v' = .ok w

end Parameters

/-! ## Templates that carry over -/

section CarryingOver

variable {p q : Parameters}

/-- The same import but for its settings, and these carry over. -/
structure ImportDeclaration.CarriesOver (p q : Parameters) (i i' : ImportDeclaration) : Prop where
  key : i'.key = i.key
  config : List.Forall₂ (fun e e' => e'.1 = e.1 ∧ p.CarriesOver q e.2 e'.2)
    i.config.entries i'.config.entries

/-- The same resource but for its properties, and these carry over. -/
structure ResourceDeclaration.CarriesOver (p q : Parameters) (r r' : ResourceDeclaration) :
    Prop where
  name : r'.name = r.name
  importAlias : r'.importAlias = r.importAlias
  resourceType : r'.resourceType = r.resourceType
  isExisting : r'.isExisting = r.isExisting
  properties : p.CarriesOver q r.properties r'.properties

/-- An output of the same type, and its value carries over. -/
structure OutputDeclaration.CarriesOver (p q : Parameters) (o o' : OutputDeclaration) : Prop where
  outputType : o'.outputType = o.outputType
  value : p.CarriesOver q o.value o'.value

/-- The imports, resources and outputs carry over one by one. -/
structure Template.CarriesOver (p q : Parameters) (t t' : Template) : Prop where
  imports : List.Forall₂ (fun e e' => e'.1 = e.1 ∧ e.2.CarriesOver p q e'.2)
    t.imports.entries t'.imports.entries
  resources : List.Forall₂ (ResourceDeclaration.CarriesOver p q) t.resources t'.resources
  outputs : List.Forall₂ (fun e e' => e'.1 = e.1 ∧ e.2.CarriesOver p q e'.2)
    t.outputs.entries t'.outputs.entries

namespace Plan

theorem fill_of_carriesOver {v v' w : Json} (h : p.CarriesOver q v v') (hw : fill p v = .ok w) :
    fill q v' = .ok w :=
  mapError_eq_ok.2 (h w (mapError_eq_ok.1 hw))

theorem fillConfig_of_carriesOver {config config' filled : Dictionary String Json}
    (h : List.Forall₂ (fun e e' => e'.1 = e.1 ∧ p.CarriesOver q e.2 e'.2)
      config.entries config'.entries)
    (hf : fillConfig p config = .ok filled) : fillConfig q config' = .ok filled := by
  obtain ⟨entries, hm, hf⟩ := bind_eq_ok.1 hf
  refine bind_eq_ok.2 ⟨entries, mapM_entries_of_forall₂ (h.imp fun e e' he => ?_) hm, hf⟩
  exact ⟨he.1, fun w => fill_of_carriesOver he.2⟩

theorem output_of_carriesOver {o o' : OutputDeclaration} {x : DeploymentOutput}
    (h : o.CarriesOver p q o') (hx : output p o = .ok x) : output q o' = .ok x := by
  obtain ⟨w, hw, rfl⟩ := map_eq_ok.1 hx
  unfold output
  rw [fill_of_carriesOver h.value hw, h.outputType]
  rfl

variable {π : Type} {mode : Mode} {imports : List (String × ResolvedImport π)}

theorem resolveImports_of_carriesOver {es es' : List (String × ImportDeclaration)}
    (h : List.Forall₂ (fun e e' => e'.1 = e.1 ∧ e.2.CarriesOver p q e'.2) es es') :
    ∀ {g : Registry π} {imports : List (String × ResolvedImport π)},
      (resolveImports p es g).1 = .ok imports → resolveImports q es' g = resolveImports p es g := by
  induction h with
  | nil => exact fun _ => rfl
  | @cons e e' es es' he _ ih =>
    intro g imports hr
    obtain ⟨name, i⟩ := e
    obtain ⟨name', i'⟩ := e'
    obtain ⟨rfl, hi⟩ : name' = name ∧ i.CarriesOver p q i' := he
    rw [resolveImports] at hr
    rw [resolveImports, resolveImports, hi.key]
    rcases hk : g.resolve i.key with ⟨f | target, k⟩
    · simp [hk] at hr
    cases hc : fillConfig p i.config with
    | error f => simp [hk, hc] at hr
    | ok config =>
      rcases hrest : resolveImports p es k with ⟨f | others, l⟩
      · simp [hk, hc, hrest] at hr
      · rw [fillConfig_of_carriesOver hi.config hc]
        dsimp only
        rw [ih (congrArg Prod.fst hrest), hrest]

theorem step_of_carriesOver {r r' : ResourceDeclaration} {x : Step π} (h : r.CarriesOver p q r')
    (hx : step mode p imports r = .ok x) : step mode q imports r' = .ok x := by
  unfold step at hx ⊢
  rw [h.importAlias]
  cases hi : findValue? r.importAlias imports with
  | none => simp [hi] at hx
  | some i =>
    rw [hi] at hx
    obtain ⟨properties, hp, hx⟩ := bind_eq_ok.1 hx
    refine bind_eq_ok.2 ⟨properties, fill_of_carriesOver h.properties hp, ?_⟩
    rw [h.name, h.isExisting, h.resourceType]
    exact hx

theorem outputs_of_carriesOver {outputs outputs' : Table OutputDeclaration}
    {filled : Table DeploymentOutput}
    (h : List.Forall₂ (fun e e' => e'.1 = e.1 ∧ e.2.CarriesOver p q e'.2)
      outputs.entries outputs'.entries)
    (hf : outputs.mapM (output p) = .ok filled) : outputs'.mapM (output q) = .ok filled := by
  obtain ⟨entries, hm, rfl⟩ := map_eq_ok.1 hf
  refine map_eq_ok.2 ⟨entries, mapM_entries_of_forall₂ (h.imp fun e e' he => ?_) hm, rfl⟩
  exact ⟨he.1, fun x => output_of_carriesOver he.2⟩

/-- The plan for a template is that for one to which it carries over. -/
theorem ofTemplate_of_carriesOver {t t' : Template} {g : Registry π} {plan : Plan π}
    (h : t.CarriesOver p q t') (hp : (ofTemplate mode t p g).1 = .ok plan) :
    ofTemplate mode t' q g = ofTemplate mode t p g := by
  unfold ofTemplate stepsFor at hp ⊢
  rcases hr : resolveImports p t.imports.entries g with ⟨f | imports, k⟩
  · simp [hr] at hp
  · rw [hr] at hp
    rw [resolveImports_of_carriesOver h.imports (congrArg Prod.fst hr), hr]
    dsimp only at hp ⊢
    cases hs : t.resources.mapM (step mode p imports) with
    | error f => simp [hs] at hp
    | ok steps =>
      rw [hs] at hp
      rw [mapM_of_forall₂ (h.resources.imp fun _ _ hr _ => step_of_carriesOver hr) hs]
      obtain ⟨outputs, ho, -⟩ := map_eq_ok.1 hp
      dsimp only
      rw [ho, outputs_of_carriesOver h.outputs ho]

end Plan

/-! ## Putting parameters in -/

/-- The dictionary with every value replaced by its image. -/
def Dictionary.map {κ ν μ : Type} (f : ν → μ) (d : Dictionary κ ν) : Dictionary κ μ where
  entries := d.entries.map fun e => (e.1, f e.2)
  distinct := by
    rw [List.map_map]
    exact d.distinct

/-- The value with the parameters put in; one that cannot be filled stays. -/
def Parameters.inlined (p : Parameters) (v : Json) : Json :=
  match p.substitute v with
  | .ok w => w
  | .error _ => v

/-- The template with the parameters put into all settings, properties and outputs. -/
def Template.inline (t : Template) (p : Parameters) : Template where
  imports := t.imports.map fun i => { i with config := i.config.map p.inlined }
  parameters := t.parameters
  resources := t.resources.map fun r => { r with properties := p.inlined r.properties }
  outputs := t.outputs.map fun o => { o with value := p.inlined o.value }

theorem Parameters.Plain.carriesOver_inlined (hp : p.Plain) (q : Parameters) (v : Json) :
    p.CarriesOver q v (p.inlined v) := by
  intro w hw
  unfold inlined
  rw [hw]
  exact substitute_of_references (hp.references_of_substitute hw) q

theorem forall₂_map_self {α β : Type} {R : α → β → Prop} {f : α → β} (h : ∀ a, R a (f a))
    (l : List α) : List.Forall₂ R l (l.map f) :=
  List.forall₂_map_right_iff.2 (List.forall₂_same.2 fun a _ => h a)

/-- With plain values put in a template carries over to any parameters. -/
theorem Template.carriesOver_inline (hp : p.Plain) (q : Parameters) (t : Template) :
    t.CarriesOver p q (t.inline p) where
  imports := forall₂_map_self
    (fun _ => ⟨rfl, rfl, forall₂_map_self (fun _ => ⟨rfl, hp.carriesOver_inlined q _⟩) _⟩) _
  resources := forall₂_map_self (fun _ => ⟨rfl, rfl, rfl, rfl, hp.carriesOver_inlined q _⟩) _
  outputs := forall₂_map_self (fun _ => ⟨rfl, rfl, hp.carriesOver_inlined q _⟩) _

/-- A template carries over to more parameters. -/
theorem Template.carriesOver_self (hq : p.ExtendsTo q) (t : Template) : t.CarriesOver p q t where
  imports := List.forall₂_same.2 fun _ _ =>
    ⟨rfl, rfl, List.forall₂_same.2 fun _ _ => ⟨rfl, fun _ => hq.substitute⟩⟩
  resources := List.forall₂_same.2 fun _ _ => ⟨rfl, rfl, rfl, rfl, fun _ => hq.substitute⟩
  outputs := List.forall₂_same.2 fun _ _ => ⟨rfl, rfl, fun _ => hq.substitute⟩

/-- Nothing is carried over of the declarations of parameters. -/
theorem Template.CarriesOver.declare {t t' : Template} (h : t.CarriesOver p q t')
    (declared : Table ParameterDeclaration) :
    t.CarriesOver p q { t' with parameters := declared } :=
  ⟨h.imports, h.resources, h.outputs⟩

/-- If the one template can be planned, the other one is planned and deployed like it. -/
structure Template.DeploysAlike (p q : Parameters) (t t' : Template) : Prop where
  /-- The steps and the outputs are the same, and the registry is left the same. -/
  plans : ∀ {π : Type} (mode : Mode) (g : Registry π) (plan : Plan π),
    (Plan.ofTemplate mode t p g).1 = .ok plan →
      Plan.ofTemplate mode t' q g = Plan.ofTemplate mode t p g
  /-- Documents that hold the templates and their parameters are deployed alike. -/
  deploys : ∀ {σ : Type} (mode : Mode) (g : Registry (Provider σ)) (plan : Plan (Provider σ))
    (template parameters template' parameters' : String) (token : Cancellation),
      Plan.readDocuments template parameters = .ok (t, p) →
      Plan.readDocuments template' parameters' = .ok (t', q) →
      (Plan.make mode template parameters g).1 = .ok plan →
        Engine.deploy mode g template' parameters' token =
          Engine.deploy mode g template parameters token

theorem Template.CarriesOver.deploysAlike {t t' : Template} (h : t.CarriesOver p q t') :
    t.DeploysAlike p q t' where
  plans _ _ _ := Plan.ofTemplate_of_carriesOver h
  deploys mode g plan template parameters template' parameters' token hread hread' hplan := by
    unfold Engine.deploy
    rw [make_of_readDocuments hread] at hplan ⊢
    rw [make_of_readDocuments hread', Plan.ofTemplate_of_carriesOver h hplan]

/-- Parameters that are declared and supplied as before keep their values. -/
theorem Parameters.extendsTo_of_bind {t : Template} {supplied supplied' : ParametersFile}
    {declared : Table ParameterDeclaration} (hp : t.bind supplied = .ok p)
    (hq : Template.bind { t with parameters := declared } supplied' = .ok q)
    (h : ∀ name d, t.parameters.get? name = some d →
      declared.get? name = some d ∧ supplied'.values.get? name = supplied.values.get? name) :
    p.ExtendsTo q := by
  intro name value hvalue
  rw [Template.get?_of_bind hp] at hvalue
  obtain ⟨d, hd, hown⟩ := Option.bind_eq_some_iff.1 hvalue
  obtain ⟨hdeclared, hsupplied⟩ := h name d hd
  rw [Template.get?_of_bind hq, hdeclared, Option.bind_some, hsupplied]
  exact hown

/-- **Inlining parameters is the same as binding them.** If no bound value holds a reference, none
is left once the values are put in, so that filling is idempotent, and a template with them put in
is deployed like the template itself, whatever it declares and whatever is bound. Further parameters
change nothing that works without them. -/
theorem Template.inline_exact (p q : Parameters) :
    (p.Plain →
      (∀ v, (p.substitute v >>= q.substitute) = p.substitute v) ∧
        ∀ t declared, Template.DeploysAlike p q t { t.inline p with parameters := declared }) ∧
    (p.ExtendsTo q →
      (∀ v w, p.substitute v = .ok w → q.substitute v = .ok w) ∧
        ∀ t declared, Template.DeploysAlike p q t { t with parameters := declared }) ∧
    ∀ t supplied declared supplied', Template.bind t supplied = .ok p →
      Template.bind { t with parameters := declared } supplied' = .ok q →
      (∀ name d, t.parameters.get? name = some d →
        declared.get? name = some d ∧ supplied'.values.get? name = supplied.values.get? name) →
          p.ExtendsTo q := by
  refine ⟨fun hp => ⟨fun v => ?_, fun t declared => ?_⟩, fun hq => ⟨fun v w => hq.substitute,
    fun t declared => ?_⟩, fun t supplied declared supplied' hp hq h => ?_⟩
  · cases hs : p.substitute v with
    | error f => rfl
    | ok w => exact Parameters.substitute_of_references (hp.references_of_substitute hs) q
  · exact ((t.carriesOver_inline hp q).declare declared).deploysAlike
  · exact ((t.carriesOver_self hq).declare declared).deploysAlike
  · exact Parameters.extendsTo_of_bind hp hq h

/-- A template that refers to a parameter from a setting, from properties and from an output; all
its records are written as arrays. -/
def refersThrice : String :=
  "[\x7b\"a\":[\"P\",\"1\",\x7b\"k\":\"[parameters('n')]\"\x7d]\x7d,\x7b\"n\":[\"v\"]\x7d," ++
    "[[\"x\",\"a\",\"T\",\"[parameters('n')]\"]],\x7b\"o\":[null,\"[parameters('n')]\"]\x7d]"

/-- A registry that knows the provider. -/
def knowsProvider : Registry Unit := (∅ : Registry Unit).register ⟨"P", "1"⟩ fun _ => ()

/-- With its parameter put in, the template is planned the same without any parameters, where it
could not be planned at all before. -/
theorem Template.inline_exact_thrice :
    ∃ t p plan, Plan.readDocuments refersThrice "" = .ok (t, p) ∧
      (Plan.ofTemplate .normal { t.inline p with parameters := ∅ } ⟨∅⟩ knowsProvider).1 = .ok plan ∧
      (Plan.ofTemplate .normal t p knowsProvider).1 = .ok plan ∧
      (Plan.ofTemplate .normal t ⟨∅⟩ knowsProvider).1.isOk = false := by
  have heval : (Plan.readDocuments refersThrice "").toOption.map (fun d =>
      (d.2.values.entries.all fun e => e.2.references.isEmpty,
        (Plan.ofTemplate .normal d.1 d.2 knowsProvider).1.isOk,
        (Plan.ofTemplate .normal d.1 ⟨∅⟩ knowsProvider).1.isOk)) = some (true, true, false) := by
    decide +kernel
  cases hread : Plan.readDocuments refersThrice "" with
  | error f => simp [hread, Except.toOption] at heval
  | ok d =>
    obtain ⟨t, p⟩ := d
    rw [hread] at heval
    obtain ⟨hplain, hok, hno⟩ :
        (p.values.entries.all fun e => e.2.references.isEmpty) = true ∧
          (Plan.ofTemplate .normal t p knowsProvider).1.isOk = true ∧
          (Plan.ofTemplate .normal t ⟨∅⟩ knowsProvider).1.isOk = false := by
      simpa [Except.toOption] using heval
    have hp : p.Plain := fun name value hvalue =>
      List.isEmpty_iff.1 (List.all_eq_true.1 hplain _ (mem_of_findValue? hvalue))
    cases hm : (Plan.ofTemplate .normal t p knowsProvider).1 with
    | error f =>
      rw [hm] at hok
      cases hok
    | ok plan =>
      refine ⟨t, p, plan, rfl, ?_, hm, hno⟩
      rw [(((Template.inline_exact p ⟨∅⟩).1 hp).2 t ∅).plans .normal knowsProvider plan hm, hm]

end CarryingOver

end Provision
