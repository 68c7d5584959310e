import Provision.Deployment.Local
import Provision.Proofs.ReportedErrors

/-!
# Previews

A preview asks every provider what it would do. With the providers of the settings that changes
nothing: waits and assertions are previewed by a handler that does not even look at the properties,
and everything else is refused. So all calls of a preview end at the instant at which they start,
and they leave the world as it was (`deploy_preview`).
-/

namespace Provision

/-! ## Runs without effects -/

/-- The step is answered at once, and nothing is done for it. -/
def Step.AnsweredAtOnce {σ : Type} (result : CallResult) (x : Step (Provider σ)) : Prop :=
  x.invoke = pure (.answer result) ∧ result ≠ .error .cancelled

theorem Step.AnsweredAtOnce.call {σ : Type} {result : CallResult} {x : Step (Provider σ)}
    {s s' : σ} {call : Call} (hx : x.AnsweredAtOnce result) (hi : x.invoke.run s = (call, s')) :
    call = .answer result ∧ s' = s := by
  rw [hx.1] at hi
  obtain ⟨rfl, rfl⟩ := Prod.mk.inj hi
  exact ⟨rfl, rfl⟩

theorem Cancellation.cuts_of_holds_eq_false {token : Cancellation} {now : Nat}
    (h : token.holds now = false) : token.cuts now (some now) = none := by
  cases token with
  | never => rfl
  | already => cases h
  | after t =>
    have hlt : ¬ t < now := of_decide_eq_false h
    exact if_neg (by simpa using hlt)

namespace Engine

variable {σ : Type} {steps : List (Step (Provider σ))} {token : Cancellation} {now : Nat}
  {s s' : σ} {run : Run σ}

/-- A run whose steps are all answered at once is over when it starts, and leaves the world as it
was. -/
theorem Runs.atOnce (h : Runs steps token now s run s') (hh : token.holds now = false)
    (hsteps : ∀ x ∈ steps, ∃ result, x.AnsweredAtOnce result) :
    s' = s ∧ run.instant = some now ∧ (∃ records, run.ending = .finished records) ∧
      ∀ c ∈ run.calls, c.start = now ∧ c.call.effects = [] := by
  induction h with
  | done => exact ⟨rfl, rfl, ⟨[], rfl⟩, fun c hc => absurd hc List.not_mem_nil⟩
  | refused hholds => simp [hholds] at hh
  | cut _ hi hg =>
    obtain ⟨result, hx⟩ := hsteps _ List.mem_cons_self
    obtain ⟨rfl, -⟩ := hx.call hi
    have hnone := Cancellation.cuts_of_holds_eq_false hh
    simp [givesUpAt, Call.answer, Call.stop, hnone] at hg
  | endless _ hi _ hs =>
    obtain ⟨result, hx⟩ := hsteps _ List.mem_cons_self
    obtain ⟨rfl, -⟩ := hx.call hi
    cases hs
  | withdrawn _ hi _ _ hr =>
    obtain ⟨result, hx⟩ := hsteps _ List.mem_cons_self
    obtain ⟨rfl, -⟩ := hx.call hi
    exact absurd (record?_eq_none.1 hr) hx.2
  | onward _ hi _ hs _ _ ih =>
    obtain ⟨result, hx⟩ := hsteps _ List.mem_cons_self
    obtain ⟨rfl, rfl⟩ := hx.call hi
    obtain rfl := Option.some.inj hs
    obtain ⟨rfl, hinstant, ⟨records, hending⟩, hcalls⟩ :=
      ih hh fun x hx => hsteps x (List.mem_cons_of_mem _ hx)
    refine ⟨rfl, hinstant, ?_, fun c hc => ?_⟩
    · unfold Run.after
      rw [hending]
      exact ⟨_, rfl⟩
    · rcases List.mem_cons.1 hc with rfl | hc
      · exact ⟨rfl, rfl⟩
      · exact hcalls c hc

end Engine

/-! ## The providers of the settings -/

section Providers

variable {σ : Type} {s : Settings} {runner : String → Utility.Runner} {carry : Carrier σ}
  {key : ProviderKey}

/-- A registration was made last, or before. -/
theorem Registry.get?_registerIf {π : Type} {g : Registry π} {k : ProviderKey} {f : Nat → π}
    {c : Bool} {registration : Registration π}
    (h : (if c then g.register k f else g).registrations.get? key = some registration) :
    key = k ∧ registration = ⟨f, none⟩ ∨ g.registrations.get? key = some registration := by
  cases c with
  | false => exact .inr h
  | true =>
    rw [if_pos rfl, get?_register] at h
    by_cases hk : key = k
    · rw [if_pos hk] at h
      exact .inl ⟨hk, (Option.some.inj h).symm⟩
    · rw [if_neg hk] at h
      exact .inr h

/-- What an import of the settings resolves to. -/
inductive Settings.Provides (s : Settings) (runner : String → Utility.Runner) (carry : Carrier σ) :
    ProviderKey → Provider σ → Prop
  | utility : Provides s runner carry Utility.key (Utility.provider (runner s.utility.shell))
  | repository :
    Provides s runner carry Repository.key (Repository.provider s.repository.service carry)

theorem Settings.provides_of_registry {registration : Registration (Provider σ)}
    (h : (s.registry runner carry).registrations.get? key = some registration) :
    registration.instance? = none ∧
      ∀ serial, s.Provides runner carry key (registration.factory serial) := by
  rcases Registry.get?_registerIf h with ⟨rfl, rfl⟩ | h
  · exact ⟨rfl, fun _ => .repository⟩
  · rcases Registry.get?_registerIf h with ⟨rfl, rfl⟩ | h
    · exact ⟨rfl, fun _ => .utility⟩
    · cases h

/-- Whatever was resolved before, a key resolves to the provider of the settings. -/
theorem Settings.provides_instance {g : Registry (Provider σ)} {i : Instance (Provider σ)}
    (hg : (s.registry runner carry).Extends g) (hi : g.instance? key = some i) :
    s.Provides runner carry key i.provider := by
  refine hg.of_instance? (fun registration hr => ?_) hi
  obtain ⟨hnone, hprovides⟩ := Settings.provides_of_registry hr
  refine ⟨hprovides, fun j hj => ?_⟩
  rw [hnone] at hj
  cases hj

end Providers

/-! ## Previews of resources -/

/-- Only waits and assertions can be previewed. -/
def IsPreviewed (key : ProviderKey) (type : String) : Prop :=
  key = Utility.key ∧ (type = "Wait" ∨ type = "Assert")

instance (key : ProviderKey) (type : String) : Decidable (IsPreviewed key type) :=
  inferInstanceAs (Decidable (_ ∧ _))

/-- What becomes of the preview of a resource. -/
def previewResult (key : ProviderKey) (r : OperationRequest) : CallResult :=
  if IsPreviewed key r.resourceType then Utility.plainSuccess r
  else .error (.notSupported key.name .previewSave r.resourceType)

/-- What the report of a preview says of a resource with its import. -/
def previewReport (i : ImportDeclaration) (r : ResourceDeclaration) : OperationReport :=
  if IsPreviewed i.key r.resourceType then ⟨r.name, "Succeeded", none⟩
  else
    ⟨r.name, "Failed", some ⟨"OperationNotSupported",
      (ProviderFault.notSupported i.provider .previewSave r.resourceType).message, ""⟩⟩

section Previews

variable {σ : Type} {s : Settings} {runner : String → Utility.Runner} {carry : Carrier σ}
  {key : ProviderKey} {p : Provider σ}

/-- No provider of the settings looks at more than the type of what it previews. -/
theorem Settings.Provides.invoke (hp : s.Provides runner carry key p) (r : OperationRequest) :
    p.invoke .previewSave r = pure (.answer (previewResult key r)) := by
  unfold previewResult
  cases hp with
  | repository =>
    have hkey : ¬ IsPreviewed Repository.key r.resourceType := fun h => absurd h.1 (by decide)
    rw [Repository.invoke_refused (by decide), if_neg hkey]
    rfl
  | utility =>
    rw [Utility.invoke_previewSave]
    by_cases hassert : r.resourceType = Utility.assertType
    · rw [if_pos hassert, if_pos ⟨rfl, .inr hassert⟩]
      rfl
    rw [if_neg hassert]
    by_cases hwait : r.resourceType = Utility.waitType
    · rw [if_pos hwait, if_pos ⟨rfl, .inl hwait⟩]
      rfl
    · rw [if_neg hwait, if_neg fun h => h.2.elim hwait hassert]
      rfl

theorem previewResult_ne_cancelled (key : ProviderKey) (r : OperationRequest) :
    previewResult key r ≠ .error .cancelled := by
  unfold previewResult Utility.plainSuccess
  split_ifs <;> simp

/-- The report of a preview says what the preview was answered. -/
theorem report_of_previewResult {c : StartedCall σ} {i : ImportDeclaration}
    {r : ResourceDeclaration} {record : OperationRecord} {w w' : σ}
    (hi : c.step.invoke.run w = (c.call, w')) (hname : c.step.name = r.name)
    (htype : c.step.request.resourceType = r.resourceType)
    (hresult : c.call.result = previewResult i.key c.step.request)
    (h : Engine.record? c.step.name c.call.result = some record) :
    record.report = previewReport i r := by
  have htells := Engine.tells_of_record? h
  have hrepeats := repeats_of_record? hi h
  unfold previewResult at hresult
  unfold previewReport
  rw [htype] at hresult
  rcases hrecord : record.report with ⟨name, state, error⟩
  rw [hrecord] at htells hrepeats
  obtain rfl : name = r.name := htells.name.trans hname
  by_cases hp : IsPreviewed i.key r.resourceType
  · rw [if_pos hp] at hresult
    have hstate : state ≠ "Failed" := fun hf => htells.failed.1 hf ⟨_, hresult⟩
    have hsome : ¬ error.isSome := fun he => hstate (htells.error.1 he)
    obtain rfl : state = "Succeeded" := htells.state.resolve_right hstate
    obtain rfl : error = none := by simpa using hsome
    rw [if_pos hp]
  · rw [if_neg hp] at hresult
    obtain rfl : state = "Failed" := htells.failed.2 fun ⟨_, ho⟩ => by simp [hresult] at ho
    have herror : error = some ⟨"OperationNotSupported", _, ""⟩ := hrepeats.fault _ hresult
    rw [if_neg hp, herror]
    rfl

/-- The step of a resource that is new is answered at once. -/
theorem StepFor.answeredAtOnce {t : Template} {ps : Parameters} {g : Registry (Provider σ)}
    {r : ResourceDeclaration} {x : Step (Provider σ)} (hx : StepFor .preview t ps g r x)
    (hg : (s.registry runner carry).Extends g) (hr : r.isExisting = false) :
    ∃ i, t.imports.get? r.importAlias = some i ∧
      x.AnsweredAtOnce (previewResult i.key x.request) := by
  obtain ⟨i, hi, hres⟩ := hx.origin
  have hoperation : x.operation = .previewSave := by
    rw [hx.operation, hr]
    rfl
  refine ⟨i, hi, ?_, previewResult_ne_cancelled i.key x.request⟩
  unfold Step.invoke
  rw [hoperation]
  exact (Settings.provides_instance hg hres.target).invoke x.request

/-- The report of a preview says of every resource what its preview was answered. -/
theorem reports_of_previewResult {t : Template} {calls : List (StartedCall σ)}
    {rs : List ResourceDeclaration} {records : List OperationRecord} {w w' : σ}
    (hi : Invoked w calls w')
    (hsteps : List.Forall₂ (fun r c => c.step.name = r.name ∧
      c.step.request.resourceType = r.resourceType ∧ ∃ i, t.imports.get? r.importAlias = some i ∧
        c.step.AnsweredAtOnce (previewResult i.key c.step.request)) rs calls)
    (h : List.Forall₂ (fun c record => Engine.record? c.step.name c.call.result = some record)
      calls records) :
    List.Forall₂ (fun r o => ∃ i, t.imports.get? r.importAlias = some i ∧ o = previewReport i r) rs
      (records.map OperationRecord.report) := by
  induction hi generalizing rs records with
  | nil =>
    cases h
    cases hsteps
    exact .nil
  | cons hcall _ ih =>
    obtain _ | ⟨hrecord, hrest⟩ := h
    obtain _ | ⟨⟨hname, htype, i, hi, hx⟩, hothers⟩ := hsteps
    have hresult := congrArg Call.result (hx.call hcall).1
    exact .cons ⟨i, hi, report_of_previewResult hcall hname htype hresult hrecord⟩
      (ih hothers hrest)

/-- **A preview does nothing.** When the documents pass all checks and no resource is there already,
a preview with the providers of the settings runs no script, sends no message, leaves the world as
it was and takes no time. Its report says that waits and assertions succeeded, and that every other
resource failed because it cannot be previewed. -/
theorem deploy_preview {template parameters : String} {token : Cancellation} {w w' : σ}
    {d : Deployment σ} {t : Template} {ps : Parameters}
    (hd : (Engine.deploy .preview (s.registry runner carry) template parameters token).run w =
      (d, w'))
    (hp : ∀ check ∈ structuralChecks (s.registry runner carry) template parameters, check.Passes)
    (hread : Plan.readDocuments template parameters = .ok (t, ps))
    (hnew : ∀ r ∈ t.resources, r.isExisting = false) (htoken : token ≠ .already) :
    d.scripts = [] ∧ d.messages = [] ∧ w' = w ∧ d.instant = some 0 ∧
      ∃ result, d.result = .ok result ∧
        List.Forall₂ (fun r o => ∃ i, t.imports.get? r.importAlias = some i ∧
          o = previewReport i r) t.resources result.report.operations := by
  obtain ⟨plan, hm⟩ := (make_settles _ template parameters (s.registry runner carry)).exists_ok hp
  obtain ⟨t', ps', hread', hext, hsteps, -⟩ := make_ok hm
  obtain ⟨rfl, rfl⟩ : t = t' ∧ ps = ps' := by simpa [hread] using hread'
  rw [Engine.deploy_of_plan hm] at hd
  have hruns := Engine.runs_run plan.steps token 0 w
  rcases hrun : (Engine.run plan.steps token 0).run w with ⟨run, w₁⟩
  rw [hrun] at hd hruns
  obtain ⟨rfl, rfl⟩ := Prod.mk.inj hd
  -- every step is answered at once, so that the run is over at once
  have hanswered : List.Forall₂ (fun r x => x.name = r.name ∧
      x.request.resourceType = r.resourceType ∧ ∃ i, t.imports.get? r.importAlias = some i ∧
        x.AnsweredAtOnce (previewResult i.key x.request)) t.resources plan.steps :=
    ((List.forall₂_and_left _ _).2 ⟨hnew, hsteps⟩).imp fun r x ⟨hr, hx⟩ =>
      ⟨hx.name, hx.resourceType, hx.answeredAtOnce hext hr⟩
  have hatOnce : ∀ x ∈ plan.steps, ∃ result, x.AnsweredAtOnce result := by
    intro x hx
    obtain ⟨r, -, -, -, i, -, hx⟩ := exists_of_mem_of_forall₂ hanswered hx
    exact ⟨_, hx⟩
  have hholds : token.holds 0 = false := by
    cases token with
    | never => rfl
    | already => exact absurd rfl htoken
    | after t => rfl
  obtain ⟨rfl, hinstant, ⟨records, hending⟩, hcalls⟩ := hruns.atOnce hholds hatOnce
  obtain ⟨hmap, hrecords⟩ := hruns.finished hending
  rw [← hmap, List.forall₂_map_right_iff] at hanswered
  have hresult : (Deployment.ofRun token plan.outputs run).result =
      .ok (Engine.conclude plan.outputs records) := by
    unfold Deployment.ofRun
    rw [hending]
  have hoperations : (Engine.conclude plan.outputs records).report.operations =
      records.map OperationRecord.report := by
    show (Engine.conclude plan.outputs records).operations.map _ = _
    rw [Engine.operations_conclude]
  refine ⟨?_, ?_, rfl, hinstant, _, hresult, ?_⟩
  · refine List.flatMap_eq_nil_iff.2 fun c hc => ?_
    rw [(hcalls c hc).2]
    rfl
  · refine List.flatMap_eq_nil_iff.2 fun c hc => ?_
    rw [(hcalls c hc).2]
    rfl
  · rw [hoperations]
    exact reports_of_previewResult hruns.invoked hanswered hrecords

/-- A template with a wait that nobody can read, and a script. -/
def unreadableAndRefused : String :=
  "\x7b\"imports\":\x7b\"u\":\x7b\"provider\":\"Utils\",\"version\":\"0.0.1\"\x7d\x7d," ++
    "\"resources\":[\x7b\"name\":\"w\",\"import\":\"u\",\"type\":\"Wait\",\"properties\":7\x7d," ++
    "\x7b\"name\":\"b\",\"import\":\"u\",\"type\":\"BashScript\"," ++
    "\"properties\":\x7b\"script\":\"\"\x7d\x7d]\x7d"

/-- The registry of the settings that apply when none are given, without a network. -/
def offline : Registry (Provider Unit) :=
  Settings.standard.registry (fun _ => .fixed (.error .cancelled)) .disconnected

/-- The wait succeeds although its properties cannot be read, and the script does not run. -/
theorem deploy_preview_unreadableAndRefused :
    ∃ d w' result, (Engine.deploy .preview offline unreadableAndRefused "" .never).run () =
        (d, w') ∧ d.scripts = [] ∧ d.messages = [] ∧ d.instant = some 0 ∧ d.result = .ok result ∧
      result.report.operations.map (fun o => (o.provisioningState, o.error.map (·.code))) =
        [("Succeeded", none), ("Failed", some "OperationNotSupported")] := by
  have hrun : (Plan.readDocuments unreadableAndRefused "").toOption.any
        (fun documents => documents.1.resources.all fun r => !r.isExisting) = true ∧
      ((Engine.deploy .preview offline unreadableAndRefused "" .never).run ()).1.result.toOption.any
        (fun result => decide (result.report.operations.map
            (fun o => (o.provisioningState, o.error.map (·.code))) =
          [("Succeeded", none), ("Failed", some "OperationNotSupported")])) = true := by
    decide +kernel
  obtain ⟨hdocuments, hreport⟩ := hrun
  rcases hd : (Engine.deploy .preview offline unreadableAndRefused "" .never).run () with ⟨d, w'⟩
  rw [hd] at hreport
  cases hm : (Plan.make .preview unreadableAndRefused "" offline).1 with
  | error f =>
    obtain ⟨rfl, -⟩ := Prod.mk.inj ((Engine.deploy_of_error hm ()).symm.trans hd)
    cases hreport
  | ok plan =>
    obtain ⟨t, p, hread, -⟩ := make_ok hm
    rw [hread] at hdocuments
    obtain ⟨hscripts, hmessages, -, hinstant, result, hresult, -⟩ := deploy_preview hd
      ((make_settles _ _ _ _).passes hm) hread (by simpa [Except.toOption] using hdocuments)
      (by decide)
    rw [hresult] at hreport
    exact ⟨d, w', result, rfl, hscripts, hmessages, hinstant, hresult, of_decide_eq_true hreport⟩

end Previews

end Provision
