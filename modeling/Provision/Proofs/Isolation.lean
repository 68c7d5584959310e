import Provision.Deployment.Local
import Provision.Proofs.Calls
import Provision.Proofs.Reports
import Mathlib.Data.List.Perm.Subperm

/-!
# Isolation of resources

`Provider.Answers` says that a provider answers by what it is asked, and by nothing else. With such
providers the step of a resource is planned and answered in one way, whichever resources stand
beside it (`make_of_subperm`, `Runs.answered`). So a template from which resources are taken, or in
which they change places, is planned like before, and the report says of each resource that is left
what it said before (`deploy_isolates`).
-/

namespace Provision

/-! ## Providers without a memory -/

/-- What a provider answers depends on nothing but what it is asked. -/
structure Provider.Answers {σ : Type} (outcome : Operation → OperationRequest → CallResult)
    (p : Provider σ) : Prop where
  result : ∀ o r s, ((p.invoke o r).run s).1.result = outcome o r
  notCancelled : ∀ o r, outcome o r ≠ .error .cancelled
  trips : ∀ o r s, ((p.invoke o r).run s).1.trips = false
  ends : ∀ o r s, ((p.invoke o r).run s).1.duration ≠ none

/-- All providers of a registry, those that are built and those that will be, answer by their key
and by what they are asked. -/
def Registry.Answers {σ : Type} (outcome : ProviderKey → Operation → OperationRequest → CallResult)
    (g : Registry (Provider σ)) : Prop :=
  ∀ key registration, g.registrations.get? key = some registration →
    (∀ serial, (registration.factory serial).Answers (outcome key)) ∧
      ∀ i, registration.instance? = some i → i.provider.Answers (outcome key)

section Providers

variable {σ : Type} {outcome : ProviderKey → Operation → OperationRequest → CallResult}
  {g h : Registry (Provider σ)}

/-- The instances that are built later answer in the same way. -/
theorem Registry.Answers.instance (hg : g.Answers outcome) (hext : g.Extends h)
    {key : ProviderKey} {i : Instance (Provider σ)} (hi : h.instance? key = some i) :
    i.provider.Answers (outcome key) := hext.of_instance? (hg key) hi

/-- What a provider that only reads answers. -/
def readAnswer (name : String) (o : Operation) (r : OperationRequest) : CallResult :=
  if o = .get then .ok (.succeeded (.bare r.resourceType))
  else .error (.notSupported name o r.resourceType)

theorem Provider.answers_readOnly (name : String) :
    (Provider.readOnly name : Provider σ).Answers (readAnswer name) := by
  have hcall : ∀ o r (s : σ), ((Provider.readOnly name : Provider σ).invoke o r).run s =
      (.answer (readAnswer name o r), s) := by
    intro o r s
    unfold readAnswer Provider.readOnly Provider.offering
    by_cases ho : o = .get
    · simp only [if_pos ho]
      rfl
    · simp only [if_neg ho]
      rfl
  refine ⟨fun o r s => ?_, fun o r h => ?_, fun o r s => ?_, fun o r s => ?_⟩
  · rw [hcall]
    rfl
  · unfold readAnswer at h
    split_ifs at h
    cases h
  · rw [hcall]
    rfl
  · rw [hcall]
    exact Option.some_ne_none 0

end Providers

/-! ## Runs -/

/-- A step of a resource that is answered in one way. -/
structure Step.AnsweredBy {σ : Type} (result : CallResult) (r : ResourceDeclaration)
    (x : Step (Provider σ)) : Prop where
  name : x.name = r.name
  answers : ∃ outcome, x.target.provider.Answers outcome ∧ outcome x.operation x.request = result

theorem Step.AnsweredBy.call {σ : Type} {result : CallResult} {r : ResourceDeclaration}
    {x : Step (Provider σ)} {s s' : σ} {call : Call} (h : x.AnsweredBy result r)
    (hi : x.invoke.run s = (call, s')) :
    call.result = result ∧ result ≠ .error .cancelled ∧ call.trips = false ∧
      call.duration ≠ none := by
  obtain ⟨outcome, hanswers, rfl⟩ := h.answers
  have hcall : ((x.target.provider.invoke x.operation x.request).run s).1 = call :=
    congrArg Prod.fst hi
  rw [← hcall]
  exact ⟨hanswers.result _ _ s, hanswers.notCancelled _ _, hanswers.trips _ _ s,
    hanswers.ends _ _ s⟩

namespace Engine

variable {σ : Type} {steps : List (Step (Provider σ))} {now : Nat} {s s' : σ} {run : Run σ}
  {resultOf : ResourceDeclaration → CallResult} {rs : List ResourceDeclaration}

/-- The record of a resource that is answered in one way, which is not that it was cancelled. -/
def recordOf (resultOf : ResourceDeclaration → CallResult) (r : ResourceDeclaration) :
    OperationRecord :=
  (record? r.name (resultOf r)).getD ⟨r.name, none, none⟩

theorem recordOf_resourceName (r : ResourceDeclaration) :
    (recordOf resultOf r).resourceName = r.name := by
  unfold recordOf
  cases hr : record? r.name (resultOf r) with
  | none => rfl
  | some record =>
    rcases record?_cases hr with ⟨-, -, rfl⟩ | ⟨-, error, e, rfl, -⟩
    · rfl
    · rfl

/-- A run that nobody cancels records of each resource what becomes of it, whatever was before. -/
theorem Runs.answered (h : Runs steps .never now s run s')
    (hsteps : List.Forall₂ (fun r x => Step.AnsweredBy (resultOf r) r x) rs steps) :
    run.ending = .finished (rs.map (recordOf resultOf)) := by
  generalize ht : Cancellation.never = token at h
  induction h generalizing rs with
  | done =>
    cases hsteps
    rfl
  | refused hh =>
    subst ht
    cases hh
  | cut hh hi hg =>
    subst ht
    obtain _ | ⟨hx, -⟩ := hsteps
    obtain ⟨-, -, htrips, -⟩ := hx.call hi
    simp [givesUpAt, htrips, Cancellation.cuts] at hg
  | endless hh hi hg hs =>
    obtain _ | ⟨hx, -⟩ := hsteps
    obtain ⟨-, -, -, hends⟩ := hx.call hi
    exact absurd (Option.map_eq_none_iff.1 hs) hends
  | withdrawn hh hi hg hs hr =>
    obtain _ | ⟨hx, -⟩ := hsteps
    obtain ⟨hresult, hnot, -⟩ := hx.call hi
    exact absurd (hresult ▸ record?_eq_none.1 hr) hnot
  | @onward x rest _ _ _ _ _ _ call record run hh hi hg hs hr hrest ih =>
    obtain _ | @⟨r, _, rs, _, hx, hothers⟩ := hsteps
    obtain ⟨hresult, -, htrips, -⟩ := hx.call hi
    -- the call leaves the token alone, so that the others are carried out in the same way
    rw [htrips, if_neg Bool.false_ne_true] at ih
    have hend : run.ending = .finished (rs.map (recordOf resultOf)) := ih hothers ht
    have hrecord : recordOf resultOf r = record := by
      unfold recordOf
      rw [← hx.name, ← hresult, hr]
      rfl
    unfold Run.after
    simp only [hend, List.map_cons, hrecord]

/-- What is said of a deployment as a whole does not depend on the order of its records. -/
theorem deployment_conclude_of_perm {outputs : Table DeploymentOutput}
    {records records' : List OperationRecord} (h : records.Perm records') :
    (conclude outputs records).report.deployment =
      (conclude outputs records').report.deployment := by
  have hcount : records.countP isFailure = records'.countP isFailure := h.countP_eq _
  by_cases hzero : records.countP isFailure = 0
  · rw [report_conclude_succeeded hzero, report_conclude_succeeded (hcount ▸ hzero)]
  · rw [report_conclude_failed hzero, report_conclude_failed (hcount ▸ hzero), hcount,
      h.length_eq]

end Engine

/-! ## Templates with fewer resources -/

section Documents

variable {template template' parameters : String} {t : Template} {p : Parameters}
  {rs : List ResourceDeclaration}

/-- A template with some of the resources of another one, in any order, can be read like it. -/
theorem readDocuments_of_subperm (hread : Plan.readDocuments template parameters = .ok (t, p))
    (hrs : rs.Subperm t.resources)
    (ht' : Template.shape.ofText template' = .ok { t with resources := rs }) :
    Plan.readDocuments template' parameters = .ok ({ t with resources := rs }, p) := by
  obtain ⟨hparse, ht, -⟩ := readDocuments_ok hread
  obtain ⟨hnames, himports⟩ := resources_of_parse hparse ht
  obtain ⟨kept, hperm, hsub⟩ := hrs
  have hnames' : (rs.map ResourceDeclaration.name).Nodup :=
    ((hperm.map _).nodup_iff).1 (hnames.sublist (hsub.map _))
  have himports' : ∀ r ∈ rs, t.imports.contains r.importAlias = true := fun r hr =>
    himports r (hsub.subset (hperm.mem_iff.2 hr))
  have hparse' : Template.parse template' = .ok { t with resources := rs } := by
    unfold Template.parse
    rw [ht']
    show (Template.checkResources t.imports [] rs >>= fun _ => _) = _
    rw [checkResources_of_nodup hnames' (by simp) himports']
    rfl
  unfold Plan.readDocuments at hread
  obtain ⟨t₁, ht₁, hread⟩ := bind_eq_ok.1 hread
  obtain ⟨supplied, hsupplied, hread⟩ := bind_eq_ok.1 hread
  obtain ⟨p₁, hp, hread⟩ := bind_eq_ok.1 hread
  obtain ⟨rfl, rfl⟩ : t₁ = t ∧ p₁ = p := by simpa using hread
  exact bind_eq_ok.2 ⟨_, mapError_eq_ok.2 hparse', bind_eq_ok.2 ⟨supplied, hsupplied,
    bind_eq_ok.2 ⟨p₁, hp, rfl⟩⟩⟩

end Documents

/-! ## Plans for fewer resources -/

section Plans

variable {π : Type} {mode : Mode} {template template' parameters : String} {t : Template}
  {p : Parameters} {g : Registry π} {imports : List (String × ResolvedImport π)} {plan : Plan π}
  {rs : List ResourceDeclaration}

/-- There is a plan when the documents can be read, and the imports, every resource and the outputs
can be planned. -/
theorem make_eq_ok :
    (Plan.make mode template parameters g).1 = .ok plan ↔
      ∃ t p imports, Plan.readDocuments template parameters = .ok (t, p) ∧
        (Plan.resolveImports p t.imports.entries g).1 = .ok imports ∧
        List.Forall₂ (fun r x => Plan.step mode p imports r = .ok x) t.resources plan.steps ∧
        t.outputs.mapM (Plan.output p) = .ok plan.outputs := by
  rw [make_fst, bind_eq_ok]
  unfold Plan.ofImports
  constructor
  · rintro ⟨⟨t, p⟩, hread, h⟩
    obtain ⟨imports, himports, h⟩ := bind_eq_ok.1 h
    obtain ⟨steps, hsteps, h⟩ := bind_eq_ok.1 h
    obtain ⟨outputs, houtputs, h⟩ := bind_eq_ok.1 h
    obtain rfl : ⟨steps, outputs⟩ = plan := Except.ok.inj h
    exact ⟨t, p, imports, hread, himports, mapM_eq_ok_iff.1 hsteps, houtputs⟩
  · rintro ⟨t, p, imports, hread, himports, hsteps, houtputs⟩
    exact ⟨(t, p), hread, bind_eq_ok.2 ⟨imports, himports, bind_eq_ok.2 ⟨plan.steps,
      mapM_eq_ok_iff.2 hsteps, bind_eq_ok.2 ⟨plan.outputs, houtputs, rfl⟩⟩⟩⟩

/-- What can be done with all items of a list can be done with some of them, in any order. -/
theorem exists_forall₂_of_subset {α β : Type} {R : α → β → Prop} {l as : List α} {bs : List β}
    (h : List.Forall₂ R l bs) (hs : as ⊆ l) : ∃ cs, List.Forall₂ R as cs := by
  induction as with
  | nil => exact ⟨[], .nil⟩
  | cons a as ih =>
    obtain ⟨ha, has⟩ := List.cons_subset.1 hs
    obtain ⟨cs, hcs⟩ := ih has
    obtain ⟨i, hi, rfl⟩ := List.mem_iff_getElem.1 ha
    exact ⟨_, .cons (h.get hi (h.length_eq ▸ hi)) hcs⟩

/-- A template with some of the resources of another one is planned like it. -/
theorem make_of_subperm (hread : Plan.readDocuments template parameters = .ok (t, p))
    (himports : (Plan.resolveImports p t.imports.entries g).1 = .ok imports)
    (hsteps : List.Forall₂ (fun r x => Plan.step mode p imports r = .ok x) t.resources plan.steps)
    (houtputs : t.outputs.mapM (Plan.output p) = .ok plan.outputs) (hrs : rs.Subperm t.resources)
    (ht' : Template.shape.ofText template' = .ok { t with resources := rs }) :
    ∃ steps, (Plan.make mode template' parameters g).1 = .ok ⟨steps, plan.outputs⟩ ∧
      List.Forall₂ (fun r x => Plan.step mode p imports r = .ok x) rs steps := by
  obtain ⟨steps, hsteps'⟩ := exists_forall₂_of_subset hsteps hrs.subset
  exact ⟨steps, make_eq_ok.2 ⟨_, p, imports, readDocuments_of_subperm hread hrs ht', himports,
    hsteps', houtputs⟩, hsteps'⟩

end Plans

/-! ## Deployments of fewer resources -/

section Deployments

variable {σ : Type} {mode : Mode} {template parameters : String} {t : Template} {p : Parameters}
  {g h : Registry (Provider σ)} {imports : List (String × ResolvedImport (Provider σ))}
  {outcome : ProviderKey → Operation → OperationRequest → CallResult}

/-- What the provider of a resource answers to the step that is planned for it. -/
def Plan.answer (outcome : ProviderKey → Operation → OperationRequest → CallResult) (mode : Mode)
    (t : Template) (p : Parameters) (imports : List (String × ResolvedImport (Provider σ)))
    (r : ResourceDeclaration) : CallResult :=
  match t.imports.get? r.importAlias, Plan.step mode p imports r with
  | some i, .ok x => outcome i.key x.operation x.request
  | _, _ => .error .cancelled

theorem answeredBy_of_step (hg : g.Answers outcome) (hext : g.Extends h)
    (himports : List.Forall₂ (fun e i => i.1 = e.1 ∧ Resolved p h e.2 i.2)
      t.imports.entries imports)
    {r : ResourceDeclaration} {x : Step (Provider σ)} (hx : Plan.step mode p imports r = .ok x) :
    x.AnsweredBy (Plan.answer outcome mode t p imports r) r := by
  have hfor : StepFor mode t p h r x := stepFor_of_step himports hx
  obtain ⟨i, hi, hres⟩ := hfor.origin
  refine ⟨hfor.name, outcome i.key, hg.instance hext hres.target, ?_⟩
  unfold Plan.answer
  rw [hi, hx]

/-- Reports, one for each list of resources, in which no resource has to do with another one. -/
structure Report.Isolated (report : List ResourceDeclaration → Report) : Prop where
  /-- What is told of a resource depends on nothing but the resource. -/
  operations : ∃ tells : ResourceDeclaration → OperationReport,
    (∀ r, (tells r).resourceName = r.name) ∧ ∀ rs, (report rs).operations = rs.map tells
  append : ∀ rs₁ rs₂,
    (report (rs₁ ++ rs₂)).operations = (report rs₁).operations ++ (report rs₂).operations
  /-- State, outputs and error of the deployment do not depend on the order. -/
  perm : ∀ rs₁ rs₂, rs₁.Perm rs₂ → (report rs₁).deployment = (report rs₂).deployment

theorem isolated_conclude (outputs : Table DeploymentOutput)
    (recordOf : ResourceDeclaration → OperationRecord)
    (hname : ∀ r, (recordOf r).resourceName = r.name) :
    Report.Isolated fun rs => (Engine.conclude outputs (rs.map recordOf)).report := by
  have hoperations : ∀ rs : List ResourceDeclaration,
      (Engine.conclude outputs (rs.map recordOf)).report.operations =
        rs.map fun r => (recordOf r).report := by
    intro rs
    show (Engine.conclude outputs (rs.map recordOf)).operations.map _ = _
    rw [Engine.operations_conclude, List.map_map]
    rfl
  refine ⟨⟨fun r => (recordOf r).report, hname, hoperations⟩, fun rs₁ rs₂ => ?_,
    fun rs₁ rs₂ hperm => Engine.deployment_conclude_of_perm (hperm.map recordOf)⟩
  rw [hoperations, hoperations, hoperations, List.map_append]

/-- **Resources are isolated from each other.** With providers that answer by what they are asked,
and a token that nobody cancels, every template with some of the resources of one that passes all
checks, in any order, passes them too, and is deployed with a report. The reports, that of the whole
template among them, are told resource by resource: those of two lists behind one another are the
one behind the other, and of the deployment itself a new order changes nothing. -/
theorem deploy_isolates (hg : g.Answers outcome)
    (ht : Template.shape.ofText template = .ok t)
    (hp : ∀ c ∈ structuralChecks g template parameters, c.Passes) :
    ∃ report : List ResourceDeclaration → Report, Report.Isolated report ∧
      ∀ rs template', rs.Subperm t.resources →
        Template.shape.ofText template' = .ok { t with resources := rs } →
          (∀ c ∈ structuralChecks g template' parameters, c.Passes) ∧
            ∀ s, ((Engine.deploy mode g template' parameters .never).run s).1.report =
              .ok (report rs) := by
  obtain ⟨plan, hm⟩ := (make_settles mode template parameters g).exists_ok hp
  obtain ⟨t', p, imports, hread, himports, hsteps, houtputs⟩ := make_eq_ok.1 hm
  obtain rfl : t' = t := by
    obtain ⟨-, ht', -⟩ := readDocuments_ok hread
    exact Except.ok.inj (ht'.symm.trans ht)
  obtain ⟨hext, hresolved⟩ := resolveImports_ok (Prod.ext himports rfl)
  refine ⟨_, isolated_conclude plan.outputs
    (Engine.recordOf (Plan.answer outcome mode t' p imports)) Engine.recordOf_resourceName,
    fun rs template' hrs ht' => ?_⟩
  obtain ⟨steps, hm', hsteps'⟩ := make_of_subperm hread himports hsteps houtputs hrs ht'
  refine ⟨(make_settles mode template' parameters g).passes hm', fun s => ?_⟩
  have hend := (Engine.runs_run steps .never 0 s).answered
    (hsteps'.imp fun r x hx => answeredBy_of_step hg hext hresolved hx)
  rw [Engine.deploy_of_plan hm']
  unfold Deployment.report Deployment.ofRun
  dsimp only
  rw [hend]
  rfl

theorem answers_readers : readers.Answers fun _ => readAnswer "P" := by
  intro key registration h
  unfold readers Registry.register at h
  rw [Dictionary.get?_insert] at h
  by_cases hk : key = ⟨"P", "1"⟩
  · rw [if_pos hk] at h
    cases h
    exact ⟨fun _ => Provider.answers_readOnly "P", fun i hi => nomatch hi⟩
  · rw [if_neg hk] at h
    cases h

/-- The same two resources, the one that exists first. -/
def existingAndNew : String :=
  "\x7b\"imports\":\x7b\"a\":\x7b\"provider\":\"P\",\"version\":\"1\"\x7d\x7d,\"resources\":[" ++
    "\x7b\"name\":\"y\",\"import\":\"a\",\"type\":\"U\",\"existing\":true\x7d," ++
    "\x7b\"name\":\"x\",\"import\":\"a\",\"type\":\"T\"\x7d]\x7d"

-- templates can be compared, so that what two texts read as can be
deriving instance DecidableEq for Table, Dictionary, ImportDeclaration, ParameterDeclaration,
  ResourceDeclaration, OutputDeclaration, Template

/-- The refused save stays refused and the read stays read when they change places. -/
theorem deploy_isolates_reversed :
    ∃ whole reversed,
      ((Engine.deploy .normal readers newAndExisting "" .never).run ()).1.report = .ok whole ∧
      ((Engine.deploy .normal readers existingAndNew "" .never).run ()).1.report = .ok reversed ∧
      whole.operations.map (·.resourceName) = ["x", "y"] ∧
      reversed.operations = whole.operations.reverse ∧
      reversed.deployment = whole.deployment := by
  have heval : (Template.shape.ofText existingAndNew).toOption =
        (Template.shape.ofText newAndExisting).toOption.map
          (fun t => { t with resources := t.resources.reverse }) ∧
      (Template.shape.ofText newAndExisting).toOption.map
        (fun t => t.resources.map ResourceDeclaration.name) = some ["x", "y"] ∧
      (Plan.make .normal newAndExisting "" readers).1.isOk = true := by
    decide +kernel
  obtain ⟨hread, hnames, hplan⟩ := heval
  cases ht : Template.shape.ofText newAndExisting with
  | error e =>
    rw [ht] at hnames
    cases hnames
  | ok t =>
    have ht' : Template.shape.ofText existingAndNew =
        .ok { t with resources := t.resources.reverse } := by
      rw [ht] at hread
      cases h : Template.shape.ofText existingAndNew with
      | error e =>
        rw [h] at hread
        cases hread
      | ok t' =>
        rw [h] at hread
        rw [Option.some.inj hread]
    have hp : ∀ c ∈ structuralChecks readers newAndExisting "", c.Passes := by
      cases hm : (Plan.make .normal newAndExisting "" readers).1 with
      | ok plan => exact (make_settles _ _ _ _).passes hm
      | error f =>
        rw [hm] at hplan
        cases hplan
    obtain ⟨report, hisolated, hreport⟩ := deploy_isolates answers_readers ht hp
    obtain ⟨tells, hname, hoperations⟩ := hisolated.operations
    refine ⟨report t.resources, report t.resources.reverse,
      (hreport _ _ (List.Subperm.refl _) ht).2 (),
      (hreport _ _ t.resources.reverse_perm.subperm ht').2 (), ?_, ?_,
      hisolated.perm _ _ t.resources.reverse_perm⟩
    · rw [ht] at hnames
      rw [hoperations, List.map_map]
      exact (List.map_congr_left fun r _ => hname r).trans (Option.some.inj hnames)
    · rw [hoperations, hoperations, List.map_reverse]

end Deployments

end Provision
