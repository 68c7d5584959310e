import Provision.Deployment.Reporting
import Provision.Proofs.Calls

/-!
# Reports agree with their deployments

The engine tells failures by the states of its records; a report tells them by the errors that it
finds in envelopes. Both find the same ones: an envelope of the engine always holds an error that
can be read, whatever its texts are (`operationError?_envelope`). `Report.Agrees` says what a report
has to say of a deployment that ended with a result, and it does (`report_agrees`).
-/

namespace Provision

open Json

/-! ## Envelopes of the engine -/

namespace Envelope

/-- An error is read as the engine sends it. -/
theorem errorShape_ofJson (e : OperationError) :
    errorShape.ofJson (OperationError.shape.toJson e) = .ok e := by
  obtain ⟨code, message, target⟩ := e
  have hjson : OperationError.shape.toJson ⟨code, message, target⟩ =
      .object [("code", .string code), ("message", .string message), ("target", .string target)] :=
    rfl
  rw [hjson]
  rfl

theorem errorShape_ofJson_fault (code message : String) :
    errorShape.ofJson (.object [("code", .string code), ("message", .string message)]) =
      .ok ⟨code, message, ""⟩ := rfl

/-- The error in an envelope of the engine is found. -/
theorem error?_envelope {error : Json} {e : OperationError}
    (h : errorShape.ofJson error = .ok e) : error? (Engine.envelope error) = .ok (some e) := by
  have hfound : errorObject? (Engine.envelope error) = .ok (some error) := by
    cases error with
    | null => cases h
    | bool _ | number _ | string _ | array _ | object _ => rfl
  unfold error?
  rw [hfound]
  show (some <$> errorShape.ofJson error).mapError _ = _
  rw [h]
  rfl

/-- Whatever the message of the error holds, an error is found: the outer or the inner one. -/
theorem operationError?_envelope {error : Json} {e : OperationError}
    (h : errorShape.ofJson error = .ok e) :
    ∃ e', operationError? (Engine.envelope error) = .ok (some e') := by
  unfold operationError?
  rw [error?_envelope h]
  exact ⟨_, rfl⟩

end Envelope

/-! ## Operations -/

/-- What a report says of the operation of a call. -/
structure OperationReport.Tells {σ : Type} (c : StartedCall σ) (o : OperationReport) : Prop where
  name : o.resourceName = c.step.name
  state : o.provisioningState = "Succeeded" ∨ o.provisioningState = "Failed"
  error : o.error.isSome ↔ o.provisioningState = "Failed"
  failed : o.provisioningState = "Failed" ↔ ¬ ∃ resource, c.call.result = .ok (.succeeded resource)

namespace Engine

variable {σ : Type}

theorem report_failure {error : Json} {e : OperationError} (name : String)
    (h : Envelope.errorShape.ofJson error = .ok e) :
    ∃ e', (failure name error).report = ⟨name, "Failed", some e'⟩ := by
  obtain ⟨e', he⟩ := Envelope.operationError?_envelope h
  refine ⟨e', ?_⟩
  unfold failure OperationRecord.report
  simp only [Option.bind_some, he]
  rfl

/-- A fault is recorded with its code and its message. -/
theorem record?_fault {name : String} {f : ProviderFault} {record : OperationRecord}
    (h : record? name (.error f) = some record) :
    record = failure name (.object [("code", .string f.code), ("message", .string f.message)]) := by
  cases f with
  | cancelled => cases h
  | notFound _ | notSupported _ _ _ | invalidProperties _ _ | configuration _
  | executionFailed _ => exact (Option.some.inj h).symm

/-- A record is that of a success, or of a failure for a reason that can be read. -/
theorem record?_cases {name : String} {result : CallResult} {record : OperationRecord}
    (h : record? name result = some record) :
    (∃ resource, result = .ok (.succeeded resource) ∧ record = ⟨name, some "Succeeded", none⟩) ∨
      (¬ ∃ resource, result = .ok (.succeeded resource)) ∧
        ∃ error e, record = failure name error ∧ Envelope.errorShape.ofJson error = .ok e := by
  match result, h with
  | .ok (.succeeded resource), h => exact .inl ⟨resource, rfl, (Option.some.inj h).symm⟩
  | .ok (.failed errors), h =>
    exact .inr ⟨by simp, _, _, (Option.some.inj h).symm, Envelope.errorShape_ofJson errors.first⟩
  | .error f, h =>
    exact .inr ⟨by simp, _, _, record?_fault h, Envelope.errorShape_ofJson_fault _ _⟩

theorem tells_of_record? {c : StartedCall σ} {record : OperationRecord}
    (h : record? c.step.name c.call.result = some record) : record.report.Tells c := by
  rcases record?_cases h with ⟨resource, hresult, rfl⟩ | ⟨hresult, error, e, rfl, he⟩
  · refine ⟨rfl, .inl rfl, ?_, ?_⟩
    · simp [OperationRecord.report]
    · simp [OperationRecord.report, hresult]
  · obtain ⟨e', hreport⟩ := report_failure c.step.name he
    rw [hreport]
    exact ⟨rfl, .inr rfl, by simp, by simpa using hresult⟩

/-- The engine and the report tell the same failures. -/
theorem failed_report {name : String} {result : CallResult} {record : OperationRecord}
    (h : record? name result = some record) : record.report.failed = isFailure record := by
  rcases record?_cases h with ⟨resource, -, rfl⟩ | ⟨-, error, e, rfl, he⟩
  · rfl
  · obtain ⟨e', hreport⟩ := report_failure name he
    rw [hreport]
    rfl

/-- The failures that the engine counts are the operations that the report counts. -/
theorem countP_isFailure {calls : List (StartedCall σ)} {records : List OperationRecord}
    (h : List.Forall₂ (fun c record => record? c.step.name c.call.result = some record)
      calls records) :
    records.countP isFailure = ((records.map OperationRecord.report).filter
      OperationReport.failed).length := by
  induction h with
  | nil => rfl
  | cons hrecord _ ih =>
    rw [List.countP_cons, List.map_cons, List.filter_cons, failed_report hrecord, ih]
    split_ifs <;> rfl

end Engine

/-! ## The report -/

/-- What a report says of a deployment of a template that made some calls. -/
structure Report.Agrees {σ : Type} (t : Template) (p : Parameters) (calls : List (StartedCall σ))
    (r : Report) : Prop where
  resources : r.operations.map OperationReport.resourceName =
    t.resources.map ResourceDeclaration.name
  once : (t.resources.map ResourceDeclaration.name).Nodup
  operations : List.Forall₂ OperationReport.Tells calls r.operations
  /-- Without a failure there are the outputs that the template declares, and no error. -/
  succeeded : r.failedOperations.length = 0 →
    r.deployment.provisioningState = "Succeeded" ∧ r.deployment.error = none ∧
      List.Forall₂ (fun e e' => e'.1 = e.1 ∧ p.substitute e.2.value = .ok e'.2)
        t.outputs.entries r.deployment.outputs.entries
  /-- With a failure there are no outputs, and the error counts the failures. -/
  failed : r.failedOperations.length ≠ 0 →
    r.deployment.provisioningState = "Failed" ∧ r.deployment.outputs = ∅ ∧
      r.deployment.error = some ⟨"DeploymentFailed",
        toString r.failedOperations.length ++ " of " ++ toString t.resources.length ++
          " resource operations failed", ""⟩

namespace Engine

variable {outputs : Table DeploymentOutput} {records : List OperationRecord}

theorem operations_conclude : (conclude outputs records).operations = records := by
  unfold conclude
  dsimp only
  split_ifs <;> rfl

theorem report_conclude_succeeded (h : records.countP isFailure = 0) :
    (conclude outputs records).report.deployment =
      ⟨"Succeeded", outputs.map DeploymentOutput.value, none⟩ := by
  unfold conclude
  dsimp only
  rw [if_pos h]
  rfl

theorem report_conclude_failed (h : records.countP isFailure ≠ 0) :
    (conclude outputs records).report.deployment =
      ⟨"Failed", ∅, some (deploymentError (records.countP isFailure) records.length)⟩ := by
  have herror : Envelope.error? (envelope (OperationError.shape.toJson
      (deploymentError (records.countP isFailure) records.length))) =
      .ok (some (deploymentError (records.countP isFailure) records.length)) :=
    Envelope.error?_envelope (Envelope.errorShape_ofJson _)
  unfold conclude DeploymentResult.report
  dsimp only
  rw [if_neg h]
  simp only [Option.bind_some, herror]
  rfl

end Engine

section Agreement

variable {σ : Type} {mode : Mode} {g : Registry (Provider σ)} {template parameters : String}
  {token : Cancellation} {s s' : σ} {d : Deployment σ} {result : DeploymentResult}

/-- A deployment with a result carried out all its steps. -/
theorem result_ofRun {outputs : Table DeploymentOutput} {r : Run σ}
    (h : (Deployment.ofRun token outputs r).result = .ok result) :
    ∃ records, r.ending = .finished records ∧ result = Engine.conclude outputs records := by
  unfold Deployment.ofRun at h
  cases he : r.ending with
  | cancelled => simp [he] at h
  | finished records =>
    rw [he] at h
    exact ⟨records, rfl, (Except.ok.inj h).symm⟩

theorem value_of_output {p : Parameters} {o : OutputDeclaration} {output : DeploymentOutput}
    (h : Plan.output p o = .ok output) : p.substitute o.value = .ok output.value := by
  obtain ⟨value, hfill, rfl⟩ := map_eq_ok.1 h
  exact mapError_eq_ok.1 hfill

/-- **A report agrees with its deployment.** Whatever the providers answered, the report of a
deployment that ended with a result lists the resources of the template in order, each with an error
exactly when its call did not succeed, and it counts the failures as the engine did. -/
theorem report_agrees
    (hd : (Engine.deploy mode g template parameters token).run s = (d, s'))
    (hr : d.result = .ok result) :
    ∃ t p, Plan.readDocuments template parameters = .ok (t, p) ∧ Invoked s d.calls s' ∧
      result.report.Agrees t p d.calls := by
  cases hm : (Plan.make mode template parameters g).1 with
  | error f =>
    rw [Engine.deploy_of_error hm] at hd
    obtain ⟨rfl, -⟩ := Prod.mk.inj hd
    cases hr
  | ok plan =>
    obtain ⟨t, p, hread, -, hsteps, houtputs⟩ := make_ok hm
    rw [Engine.deploy_of_plan hm] at hd
    obtain ⟨rfl, rfl⟩ := Prod.mk.inj hd
    have hruns := Engine.runs_run plan.steps token 0 s
    obtain ⟨records, hending, rfl⟩ := result_ofRun hr
    obtain ⟨hcalls, hrecords⟩ := hruns.finished hending
    obtain ⟨hparse, ht, -⟩ := readDocuments_ok hread
    -- one call, one record and one operation of the report for every resource
    have hoperations : (Engine.conclude plan.outputs records).report.operations =
        records.map OperationRecord.report := by
      show (Engine.conclude plan.outputs records).operations.map _ = _
      rw [Engine.operations_conclude]
    have htells : List.Forall₂ OperationReport.Tells
        ((Engine.run plan.steps token 0).run s).1.calls (records.map OperationRecord.report) :=
      List.forall₂_map_right_iff.2 (hrecords.imp fun _ _ => Engine.tells_of_record?)
    have hcount : (Engine.conclude plan.outputs records).report.failedOperations.length =
        records.countP Engine.isFailure := by
      rw [Engine.countP_isFailure hrecords, ← hoperations]
      rfl
    have hlength : records.length = t.resources.length := by
      rw [hsteps.length_eq, ← hcalls, List.length_map, hrecords.length_eq]
    refine ⟨t, p, hread, hruns.invoked, ?_, (resources_of_parse hparse ht).1, ?_, fun h => ?_,
      fun h => ?_⟩
    · rw [hoperations, map_eq_of_forall₂ (htells.imp fun _ _ => OperationReport.Tells.name)]
      calc _ = (((Engine.run plan.steps token 0).run s).1.calls.map StartedCall.step).map
            Step.name := by
            rw [List.map_map]
            rfl
        _ = plan.steps.map Step.name := by rw [hcalls]
        _ = t.resources.map ResourceDeclaration.name :=
            map_eq_of_forall₂ (hsteps.imp fun _ _ => StepFor.name)
    · rw [hoperations]
      exact htells
    · rw [hcount] at h
      rw [Engine.report_conclude_succeeded h]
      refine ⟨rfl, rfl, List.forall₂_map_right_iff.2 (houtputs.imp fun e e' he => ?_)⟩
      exact ⟨he.1, value_of_output he.2⟩
    · rw [hcount] at h ⊢
      rw [Engine.report_conclude_failed h, ← hlength]
      exact ⟨rfl, rfl, rfl⟩

/-- The refused save is the one failure. -/
theorem report_agrees_newAndExisting :
    ∃ d s' result, (Engine.deploy .normal readers newAndExisting "" .never).run () = (d, s') ∧
      d.result = .ok result ∧ result.report.failedOperations.length = 1 ∧
      ∃ t p, Plan.readDocuments newAndExisting "" = .ok (t, p) ∧ Invoked () d.calls s' ∧
        result.report.Agrees t p d.calls := by
  have hrun : (match ((Engine.deploy .normal readers newAndExisting "" .never).run ()).1.result with
      | .ok result => result.report.failedOperations.length == 1
      | .error _ => false) = true := by
    decide +kernel
  rcases hd : (Engine.deploy .normal readers newAndExisting "" .never).run () with ⟨d, s'⟩
  rw [hd] at hrun
  cases hr : d.result with
  | error f => simp [hr] at hrun
  | ok result =>
    rw [hr] at hrun
    exact ⟨d, s', result, rfl, hr, by simpa using hrun, report_agrees hd hr⟩

end Agreement

end Provision
