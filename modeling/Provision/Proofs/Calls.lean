import Provision.Proofs.Declarations
import Provision.Proofs.Planning
import Provision.Proofs.Running

/-!
# The calls of a deployment

`StepFor` says what is asked for one resource: of the provider of its own import, with the settings
of this import and of no other. A plan has one such step for every resource (`make_ok`), and a
deployment that nobody cancels makes one such call for each of them in order, whatever came of the
calls before (`deploy_calls`).
-/

namespace Provision

/-! ## Plans -/

section Plans

variable {π : Type} {mode : Mode} {t : Template} {p : Parameters} {h : Registry π}

/-- What is done with a resource. -/
structure StepFor (mode : Mode) (t : Template) (p : Parameters) (h : Registry π)
    (r : ResourceDeclaration) (x : Step π) : Prop where
  name : x.name = r.name
  /-- One that exists is read, any other one is saved or previewed. -/
  operation : x.operation =
    if r.isExisting then .get else if mode = .preview then .previewSave else .save
  resourceType : x.request.resourceType = r.resourceType
  properties : p.substitute r.properties = .ok x.request.properties
  omitted : ∀ n, OmitsProperties n → ResourceDeclaration.shape.decode n = .ok r →
    x.request.properties = .null
  /-- Provider and settings are those of its own import. -/
  origin : ∃ i, t.imports.get? r.importAlias = some i ∧
    Resolved p h i ⟨x.target, x.request.importConfig⟩

theorem stepFor_of_step {imports : List (String × ResolvedImport π)} {r : ResourceDeclaration}
    {x : Step π}
    (hi : List.Forall₂ (fun e i => i.1 = e.1 ∧ Resolved p h e.2 i.2) t.imports.entries imports)
    (hx : Plan.step mode p imports r = .ok x) : StepFor mode t p h r x := by
  unfold Plan.step at hx
  have hrel : Option.Rel (Resolved p h) (t.imports.get? r.importAlias)
      (findValue? r.importAlias imports) := findValue?_rel hi r.importAlias
  cases hf : findValue? r.importAlias imports with
  | none => simp [hf] at hx
  | some i =>
    rw [hf] at hx hrel
    obtain ⟨properties, hfill, hx⟩ := bind_eq_ok.1 hx
    obtain rfl := Except.ok.inj hx
    have hprops : p.substitute r.properties = .ok properties := mapError_eq_ok.1 hfill
    refine ⟨rfl, ?_, rfl, hprops, fun n hn hr => ?_, ?_⟩
    · cases mode <;> rfl
    · rw [properties_of_omitted hn hr] at hprops
      exact (Except.ok.inj hprops).symm
    · generalize t.imports.get? r.importAlias = declared at hrel ⊢
      cases hrel with
      | some hres => exact ⟨_, rfl, hres⟩

/-- A plan has one step for every resource, in order, and an output for every declared one. -/
theorem make_ok {template parameters : String} {g : Registry π} {plan : Plan π}
    (hm : (Plan.make mode template parameters g).1 = .ok plan) :
    ∃ t p, Plan.readDocuments template parameters = .ok (t, p) ∧
      g.Extends (Plan.make mode template parameters g).2 ∧
      List.Forall₂ (StepFor mode t p (Plan.make mode template parameters g).2)
        t.resources plan.steps ∧
      List.Forall₂ (fun e e' => e'.1 = e.1 ∧ Plan.output p e.2 = .ok e'.2)
        t.outputs.entries plan.outputs.entries := by
  unfold Plan.make at hm ⊢
  cases hd : Plan.readDocuments template parameters with
  | error f => simp [hd] at hm
  | ok d =>
    obtain ⟨t, p⟩ := d
    rw [hd] at hm
    rcases hr : Plan.resolveImports p t.imports.entries g with ⟨_ | imports, h⟩
    · simp [hr] at hm
    · simp only [hr] at hm ⊢
      obtain ⟨hext, himports⟩ := resolveImports_ok hr
      unfold Plan.ofImports at hm
      obtain ⟨steps, hsteps, hm⟩ := bind_eq_ok.1 hm
      obtain ⟨outputs, houtputs, hm⟩ := bind_eq_ok.1 hm
      obtain rfl : ⟨steps, outputs⟩ = plan := Except.ok.inj hm
      refine ⟨t, p, rfl, hext, ?_, Table.forall₂_of_mapM houtputs⟩
      exact (mapM_eq_ok_iff.1 hsteps).imp fun r x hx => stepFor_of_step himports hx

end Plans

/-! ## Runs that nobody cancels -/

section Calls

variable {σ : Type} {steps : List (Step (Provider σ))} {now : Nat} {s s' : σ} {r : Run σ}

/-- A run that nobody cancels leaves out no step, unless a call never ends. -/
theorem Engine.Runs.never (h : Runs steps .never now s r s')
    (hc : ∀ c ∈ r.calls, c.call.result ≠ .error .cancelled ∧ c.call.trips = false) :
    ∃ later, steps = r.calls.map StartedCall.step ++ later ∧
      (later = [] ∨ ∃ c ∈ r.calls.getLast?, c.call.duration = none) := by
  generalize ht : Cancellation.never = token at h
  induction h with
  | done => exact ⟨[], rfl, .inl rfl⟩
  | refused hh =>
    subst ht
    cases hh
  | @cut x rest _ _ _ _ _ call hh hi hg =>
    subst ht
    obtain ⟨-, htrips⟩ := hc _ List.mem_cons_self
    dsimp only at htrips
    simp [givesUpAt, htrips, Cancellation.cuts] at hg
  | endless hh hi hg hs =>
    refine ⟨_, rfl, .inr ⟨_, rfl, ?_⟩⟩
    simpa [Call.stop] using hs
  | withdrawn hh hi hg hs hr =>
    obtain ⟨hresult, -⟩ := hc _ List.mem_cons_self
    exact absurd (record?_eq_none.1 hr) hresult
  | @onward x rest _ now _ _ _ _ call _ r hh hi hg hs hr hrest ih =>
    obtain ⟨-, htrips⟩ := hc ⟨x, now, call⟩ List.mem_cons_self
    dsimp only at htrips
    -- the call leaves the token alone, so that nobody cancels the others either
    rw [htrips, if_neg Bool.false_ne_true] at ih
    obtain ⟨later, rfl, hlast⟩ := ih (fun c hm => hc c (List.mem_cons_of_mem _ hm)) ht
    refine ⟨later, rfl, hlast.imp_right fun ⟨c, hm, hd⟩ => ⟨c, ?_, hd⟩⟩
    show c ∈ (_ :: r.calls).getLast?
    rw [Option.mem_def] at hm ⊢
    rw [List.getLast?_cons, hm]
    rfl

/-! ## Deployments that nobody cancels -/

/-- **One call for every resource, in order.** Once all checks pass, a deployment whose token is
never cancelled, by a call neither, and none of whose calls ends as cancelled, makes exactly one
call for each declared resource, whatever came of the calls before: the call that `StepFor`
describes. The last call may be one that never ends; the resources after it are then not
reached. -/
theorem deploy_calls {mode : Mode} {g : Registry (Provider σ)} {template parameters : String}
    {d : Deployment σ}
    (hd : (Engine.deploy mode g template parameters .never).run s = (d, s'))
    (hp : ∀ check ∈ structuralChecks g template parameters, check.Passes)
    (hc : ∀ c ∈ d.calls, c.call.result ≠ .error .cancelled ∧ c.call.trips = false) :
    ∃ t p, Plan.readDocuments template parameters = .ok (t, p) ∧
      g.Extends (Plan.make mode template parameters g).2 ∧
      Invoked s d.calls s' ∧
      ∃ called later, t.resources = called ++ later ∧
        List.Forall₂
          (fun r c => StepFor mode t p (Plan.make mode template parameters g).2 r c.step)
          called d.calls ∧
        (later = [] ∨ ∃ c ∈ d.calls.getLast?, c.call.duration = none) := by
  obtain ⟨plan, hm⟩ := (make_settles mode template parameters g).exists_ok hp
  obtain ⟨t, p, hread, hext, hsteps, -⟩ := make_ok hm
  rw [Engine.deploy_of_plan hm] at hd
  obtain ⟨rfl, rfl⟩ := Prod.mk.inj hd
  have hruns := Engine.runs_run plan.steps .never 0 s
  obtain ⟨later, heq, hlast⟩ := hruns.never hc
  rw [heq] at hsteps
  have hcalled := List.forall₂_take_append _ _ _ hsteps
  have hleft := List.forall₂_drop_append _ _ _ hsteps
  refine ⟨t, p, hread, hext, hruns.invoked, _, _, (List.take_append_drop _ _).symm,
    List.forall₂_map_right_iff.1 hcalled, hlast.imp_left fun hnil => ?_⟩
  rw [hnil] at hleft
  exact List.forall₂_nil_right_iff.1 hleft

/-- A template with one resource that is new and one that exists, both of one provider. -/
def newAndExisting : String :=
  "\x7b\"imports\":\x7b\"a\":\x7b\"provider\":\"P\",\"version\":\"1\"\x7d\x7d,\"resources\":[" ++
    "\x7b\"name\":\"x\",\"import\":\"a\",\"type\":\"T\"\x7d," ++
    "\x7b\"name\":\"y\",\"import\":\"a\",\"type\":\"U\",\"existing\":true\x7d]\x7d"

/-- The registry of one provider that only reads. -/
def readers : Registry (Provider Unit) :=
  (∅ : Registry (Provider Unit)).register ⟨"P", "1"⟩ fun _ => .readOnly "P"

/-- The save is refused, and the other resource is read all the same. -/
theorem deploy_calls_newAndExisting :
    ∃ d s', (Engine.deploy .normal readers newAndExisting "" .never).run () = (d, s') ∧
      d.calls.map (·.step.operation) = [.save, .get] ∧
      ∃ t p, Plan.readDocuments newAndExisting "" = .ok (t, p) ∧
        List.Forall₂
          (fun r c => StepFor .normal t p (Plan.make .normal newAndExisting "" readers).2 r c.step)
          t.resources d.calls := by
  have hrun : (Plan.make .normal newAndExisting "" readers).1.isOk = true ∧
      ((Engine.deploy .normal readers newAndExisting "" .never).run ()).1.calls.all
        (fun c => decide (c.call.result ≠ .error .cancelled ∧ c.call.trips = false ∧
          c.call.duration ≠ none)) = true ∧
      ((Engine.deploy .normal readers newAndExisting "" .never).run ()).1.calls.map
        (·.step.operation) = [.save, .get] := by
    decide +kernel
  obtain ⟨hplan, hcalls, hoperations⟩ := hrun
  rcases hd : (Engine.deploy .normal readers newAndExisting "" .never).run () with ⟨d, s'⟩
  rw [hd] at hcalls hoperations
  have hall : ∀ c ∈ d.calls,
      c.call.result ≠ .error .cancelled ∧ c.call.trips = false ∧ c.call.duration ≠ none := by
    simpa using hcalls
  obtain ⟨plan, hm⟩ : ∃ plan, (Plan.make .normal newAndExisting "" readers).1 = .ok plan := by
    cases hm : (Plan.make .normal newAndExisting "" readers).1 with
    | ok plan => exact ⟨plan, rfl⟩
    | error f => simp [hm, Except.isOk, Except.toBool] at hplan
  obtain ⟨t, p, hread, -, -, called, later, heq, hsteps, hlast⟩ := deploy_calls hd
    ((make_settles _ _ _ _).passes hm) fun c hc => ⟨(hall c hc).1, (hall c hc).2.1⟩
  have hlater : later = [] := by
    refine hlast.resolve_right fun ⟨c, hc, hnone⟩ => ?_
    exact (hall c (List.mem_of_getLast? hc)).2.2 hnone
  rw [hlater, List.append_nil] at heq
  exact ⟨d, s', rfl, hoperations, t, p, hread, heq ▸ hsteps⟩

end Calls

end Provision
