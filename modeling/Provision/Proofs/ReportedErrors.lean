import Provision.Proofs.Bundled
import Provision.Proofs.NoJson
import Provision.Proofs.Reports

/-!
# The errors of a report

A report repeats the error that a provider raised, unless the message of this error is itself the
text of an envelope; then it tells the error in there (`report_repeats`). No message of a fault is
such a text, and none of the utility provider. The repository provider passes on what its service
says, so a service that fails can put an error of its own in the place of the one that the provider
raised.
-/

namespace Provision

open Json

/-! ## Envelopes in messages -/

/-- The error that a call raises: the first of its errors, or what its fault says. -/
def raised? : CallResult → Option OperationError
  | .ok (.succeeded _) => none
  | .ok (.failed errors) => some errors.first
  | .error f => some ⟨f.code, f.message, ""⟩

/-- The text is that of an envelope with an error. -/
def Envelope.Holds (text : String) (e : OperationError) : Prop :=
  ∃ j, Json.parse text = .ok j ∧ error? j = .ok (some e)

theorem Envelope.inner?_eq_some {text : String} {e : OperationError} :
    inner? text = some e ↔ Holds text e := by
  unfold inner? Holds
  cases Json.parse text with
  | error f => simp
  | ok j => cases h : error? j <;> simp [h]

theorem Json.Unreadable.not_holds {text : String} (h : Unreadable text) (e : OperationError) :
    ¬ Envelope.Holds text e := fun ⟨j, hj, _⟩ => h j hj

/-! ## Errors of records -/

namespace Engine

variable {name : String} {result : CallResult} {record : OperationRecord} {p : OperationError}

theorem error_report_failure {error : Json} (h : Envelope.errorShape.ofJson error = .ok p) :
    (failure name error).report.error = some ((Envelope.inner? p.message).getD p) := by
  unfold failure OperationRecord.report Envelope.operationError?
  simp only [Option.bind_some, Envelope.error?_envelope h]
  rfl

/-- The error of a record is the one that was raised, or the one in its message. -/
theorem error_report (h : record? name result = some record) (hp : raised? result = some p) :
    record.report.error = some ((Envelope.inner? p.message).getD p) := by
  match result, h with
  | .ok (.succeeded _), _ => cases hp
  | .ok (.failed errors), h =>
    obtain rfl := Option.some.inj h
    obtain rfl := Option.some.inj hp
    exact error_report_failure (Envelope.errorShape_ofJson errors.first)
  | .error f, h =>
    obtain rfl := Option.some.inj hp
    rw [record?_fault h]
    exact error_report_failure (Envelope.errorShape_ofJson_fault f.code f.message)

end Engine

/-! ## What the bundled providers raise -/

/-- Whatever error there is, its message is no Json. -/
def RaisesPlainly (result : CallResult) : Prop :=
  ∀ p, raised? result = some p → Unreadable p.message

theorem raisesPlainly_succeeded (resource : ResourceData) :
    RaisesPlainly (.ok (.succeeded resource)) := fun _ hp => nomatch hp

theorem raisesPlainly_fault (f : ProviderFault) : RaisesPlainly (.error f) := by
  intro p hp
  obtain rfl := Option.some.inj hp
  exact f.unreadable_message

theorem raisesPlainly_failure {e : OperationError} (h : Unreadable e.message) :
    RaisesPlainly (.ok (.failure e)) := by
  intro p hp
  obtain rfl := Option.some.inj hp
  exact h

namespace Utility

variable {σ : Type} {runner : Runner} {o : Operation} {r : OperationRequest} {s s' : σ} {c : Call}

theorem raisesPlainly_withProperties {α : Type} {shape : Json.Shape α} {call : α → Call}
    (h : ∀ a, RaisesPlainly (call a).result) :
    RaisesPlainly (withProperties shape r call).result := by
  unfold withProperties
  cases properties shape r with
  | error f => exact raisesPlainly_fault f
  | ok a => exact h a

theorem raisesPlainly_assert : RaisesPlainly (assert r).result := by
  refine raisesPlainly_withProperties fun body => ?_
  show RaisesPlainly (assertion r body)
  unfold assertion
  split_ifs
  · exact raisesPlainly_succeeded _
  · refine raisesPlainly_failure (unreadable_append (barsValue_toList_append ?_ body.name) _)
    decide +kernel

theorem raisesPlainly_runScript : RaisesPlainly (runScript runner r).result := by
  refine raisesPlainly_withProperties fun body => ?_
  show RaisesPlainly (scriptResult r (runner body.script).result)
  cases (runner body.script).result with
  | ok output => exact raisesPlainly_succeeded _
  | error f => exact raisesPlainly_fault _

theorem raisesPlainly_invoke (h : ((provider runner : Provider σ).invoke o r).run s = (c, s')) :
    RaisesPlainly c.result := by
  by_cases hsave : o = .save
  · subst hsave
    rw [invoke_save] at h
    split_ifs at h <;> obtain rfl := (Prod.mk.inj h).1
    · exact raisesPlainly_runScript
    · exact raisesPlainly_assert
    · exact raisesPlainly_withProperties fun body => raisesPlainly_succeeded _
    · exact raisesPlainly_fault _
  by_cases hpreview : o = .previewSave
  · subst hpreview
    rw [invoke_previewSave] at h
    split_ifs at h <;> obtain rfl := (Prod.mk.inj h).1
    · exact raisesPlainly_succeeded _
    · exact raisesPlainly_succeeded _
    · exact raisesPlainly_fault _
  · rw [invoke_refused hsave hpreview] at h
    obtain rfl := (Prod.mk.inj h).1
    exact raisesPlainly_fault _

end Utility

namespace Repository

/-- The error tells what the service says, in an answer that it failed, about the repository that a
read asks for. -/
def Relayed {σ : Type} (service : Service) (carry : Carrier σ) (r : OperationRequest) (s : σ)
    (p : OperationError) : Prop :=
  ∃ token body message reply j, readRequest r = .ok (token, body) ∧
    service.message token body = .ok message ∧
    (((carry message).run s).1.within service.timeout).reply = some reply ∧
    reply.isSuccess = false ∧ Json.parse reply.text = .ok j ∧
    j.member? "message" = some (.string p.message) ∧
    p.code = repositoryType ∧ p.target = body.owner ++ "/" ++ body.name

variable {σ : Type} {service : Service} {carry : Carrier σ} {o : Operation} {r : OperationRequest}
  {s s' : σ} {c : Call} {p : OperationError}

/-- What is told of a failure is what the service says of it, or it is no Json. -/
theorem failureMessage_cases (reply : Reply) :
    (∃ j, Json.parse reply.text = .ok j ∧
      j.member? "message" = some (.string (failureMessage reply))) ∨
      Unreadable (failureMessage reply) := by
  have hstatus : Unreadable ("HTTP " ++ toString reply.status) :=
    unreadable_append (by decide +kernel) _
  unfold failureMessage
  cases hj : Json.parse reply.text with
  | error f => exact .inr hstatus
  | ok j =>
    dsimp only
    cases hm : (j.member? "message").bind Json.text? with
    | none => exact .inr hstatus
    | some text =>
      obtain ⟨value, hvalue, htext⟩ := Option.bind_eq_some_iff.1 hm
      cases value with
      | string text' =>
        obtain rfl := Option.some.inj htext
        exact .inl ⟨j, rfl, hvalue⟩
      | null | bool _ | number _ | array _ | object _ => cases htext

theorem raised_conclude {type target : String} {outcome : Except RepositoryFault Json}
    (hp : raised? (conclude type target outcome) = some p) :
    ∃ f, outcome = .error f ∧ p = ⟨type, f.message, target⟩ := by
  cases outcome with
  | ok j => cases hp
  | error f => exact ⟨f, rfl, (Option.some.inj hp).symm⟩

theorem bind_ne_error {ε α β : Type} {x : Except ε α} {k : α → Except ε β} {f : ε}
    (hx : x ≠ .error f) (hk : ∀ a, k a ≠ .error f) : (x >>= k) ≠ .error f := by
  cases x with
  | error f' => exact fun h => hx (congrArg _ (Except.error.inj h))
  | ok a => exact hk a

section NoAnswer

variable (code : Nat) (text : String)

theorem checkSegment_ne_status (name : String) :
    checkSegment name ≠ .error (.status code text) := by
  unfold checkSegment
  split_ifs <;> simp

theorem repositoryUrl_ne_status (service : Service) (owner name : String) :
    service.repositoryUrl owner name ≠ .error (.status code text) := by
  refine bind_ne_error (checkSegment_ne_status _ _ _) fun _ =>
    bind_ne_error (checkSegment_ne_status _ _ _) fun _ => ?_
  cases Url.parse service.baseUrl with
  | error f => simp
  | ok base =>
    dsimp only
    cases base.extend? ["repos", owner, name] <;> simp

/-- A message that cannot be made has no answer. -/
theorem message_ne_status (service : Service) (token : String) (body : RepositoryRequest) :
    service.message token body ≠ .error (.status code text) := by
  unfold Service.message
  dsimp only
  split
  · exact nofun
  · refine bind_ne_error (repositoryUrl_ne_status _ _ _ _ _) fun url => ?_
    split
    · exact nofun
    · split <;> exact nofun

end NoAnswer

theorem answered_of_status {m : Message} {d : Delivery} {code : Nat} {text : String}
    (h : readDelivery m d = .error (.status code text)) :
    ∃ reply, d.reply = some reply ∧ reply.isSuccess = false ∧ text = failureMessage reply := by
  unfold readDelivery at h
  cases hd : d.reply with
  | none => simp [hd] at h
  | some reply =>
    rw [hd] at h
    dsimp only at h
    unfold readReply at h
    cases hs : reply.isSuccess with
    | true =>
      rw [hs, if_pos rfl] at h
      cases hj : Json.parse reply.text <;> rw [hj] at h <;> cases h
    | false =>
      rw [hs, if_neg Bool.false_ne_true] at h
      obtain ⟨-, rfl⟩ := RepositoryFault.status.inj (Except.error.inj h)
      exact ⟨reply, rfl, hs, rfl⟩

/-- An error whose message may be Json is relayed. -/
theorem relayed_of_getRepository (htype : r.resourceType = repositoryType)
    (h : (getRepository service carry r).run s = (c, s')) (hp : raised? c.result = some p) :
    Unreadable p.message ∨ Relayed service carry r s p := by
  unfold getRepository at h
  cases hread : readRequest r with
  | error f =>
    rw [hread] at h
    obtain rfl := (Prod.mk.inj h).1
    exact .inl (raisesPlainly_fault f p hp)
  | ok pair =>
    obtain ⟨token, body⟩ := pair
    rw [hread] at h
    dsimp only at h
    cases hmessage : service.message token body with
    | error f =>
      rw [hmessage] at h
      obtain rfl := (Prod.mk.inj h).1
      have hraised : raised? (conclude _ _ (.error f)) = some p := hp
      obtain ⟨f', hf, rfl⟩ := raised_conclude hraised
      obtain rfl : f = f' := Except.error.inj hf
      exact .inl (RepositoryFault.unreadable_message fun code text hf =>
        message_ne_status code text service token body (hmessage.trans (congrArg _ hf)))
    | ok message =>
      rw [hmessage] at h
      obtain rfl := (Prod.mk.inj h).1
      have hraised : raised? (conclude _ _ (readDelivery message _)) = some p := hp
      obtain ⟨f, hf, rfl⟩ := raised_conclude hraised
      by_cases hstatus : ∀ code text, f ≠ .status code text
      · exact .inl (RepositoryFault.unreadable_message hstatus)
      · obtain ⟨code, text, rfl⟩ : ∃ code text, f = .status code text := by
          simpa using hstatus
        obtain ⟨reply, hreply, hfailed, rfl⟩ := answered_of_status hf
        rcases failureMessage_cases reply with ⟨j, hj, htext⟩ | hun
        · exact .inr ⟨token, body, message, reply, j, hread, hmessage, hreply, hfailed, hj, htext,
            htype, rfl⟩
        · exact .inl hun

/-- An error whose message may be Json is raised by a read. -/
theorem relayed_of_invoke (h : ((provider service carry).invoke o r).run s = (c, s'))
    (hp : raised? c.result = some p) :
    Unreadable p.message ∨ o = .get ∧ Relayed service carry r s p := by
  by_cases hget : o = .get
  · subst hget
    rw [invoke_get] at h
    split_ifs at h with htype
    · exact (relayed_of_getRepository htype h hp).imp_right fun h => ⟨rfl, h⟩
    · obtain rfl := (Prod.mk.inj h).1
      exact .inl (raisesPlainly_fault _ p hp)
  · rw [invoke_refused hget] at h
    obtain rfl := (Prod.mk.inj h).1
    exact .inl (raisesPlainly_fault _ p hp)

end Repository

/-! ## Reports -/

/-- What a report says of the error that a call raised. -/
structure OperationReport.Repeats {σ : Type} (c : StartedCall σ) (o : OperationReport) : Prop where
  name : o.resourceName = c.step.name
  /-- The error is told as it was raised if its message holds no other. -/
  plain : ∀ p, raised? c.call.result = some p → (∀ e, ¬ Envelope.Holds p.message e) →
    o.error = some p
  nested : ∀ p e, raised? c.call.result = some p → Envelope.Holds p.message e → o.error = some e
  /-- What a fault says is told, whatever it embeds. -/
  fault : ∀ f, c.call.result = .error f → o.error = some ⟨f.code, f.message, ""⟩
  /-- What the utility provider says is told. -/
  utility : ∀ (runner : Utility.Runner) (p : OperationError),
    c.step.target.provider = Utility.provider runner → raised? c.call.result = some p →
    o.error = some p
  /-- What the repository provider says is told, unless its service failed and said something that
  holds another error. -/
  repository : ∀ (service : Repository.Service) (carry : Carrier σ) (p : OperationError),
    c.step.target.provider = Repository.provider service carry → raised? c.call.result = some p →
    o.error ≠ some p → ∃ s s' e, c.step.operation = .get ∧ c.step.invoke.run s = (c.call, s') ∧
      Repository.Relayed service carry c.step.request s p ∧ Envelope.Holds p.message e ∧
      o.error = some e

section Reports

variable {σ : Type} {mode : Mode} {g : Registry (Provider σ)} {template parameters : String}
  {token : Cancellation} {s s' : σ} {d : Deployment σ} {result : DeploymentResult}

/-- The report of a call repeats the error that was raised. -/
theorem repeats_of_record? {c : StartedCall σ} {record : OperationRecord}
    (hi : c.step.invoke.run s = (c.call, s'))
    (h : Engine.record? c.step.name c.call.result = some record) :
    record.report.Repeats c := by
  have hplain : ∀ p, raised? c.call.result = some p → (∀ e, ¬ Envelope.Holds p.message e) →
      record.report.error = some p := by
    intro p hp hno
    have hinner : Envelope.inner? p.message = none :=
      Option.eq_none_iff_forall_ne_some.2 fun e he => hno e (Envelope.inner?_eq_some.1 he)
    rw [Engine.error_report h hp, hinner]
    rfl
  have hnested : ∀ p e, raised? c.call.result = some p → Envelope.Holds p.message e →
      record.report.error = some e := by
    intro p e hp he
    rw [Engine.error_report h hp, Envelope.inner?_eq_some.2 he]
    rfl
  refine
    { name := (Engine.tells_of_record? h).name
      plain := hplain
      nested := hnested
      fault := fun f hf => ?_
      utility := fun runner p hprovider hp => ?_
      repository := fun service carry p hprovider hp hne => ?_ }
  · exact hplain _ (by rw [hf]; rfl) fun e => f.unreadable_message.not_holds e
  · unfold Step.invoke at hi
    rw [hprovider] at hi
    exact hplain p hp fun e => (Utility.raisesPlainly_invoke hi p hp).not_holds e
  · have hcall := hi
    unfold Step.invoke at hi
    rw [hprovider] at hi
    rcases Repository.relayed_of_invoke hi hp with hun | ⟨hget, hrelayed⟩
    · exact absurd (hplain p hp fun e => hun.not_holds e) hne
    · obtain ⟨e, he⟩ : ∃ e, Envelope.Holds p.message e := by
        by_contra hno
        exact hne (hplain p hp fun e he => hno ⟨e, he⟩)
      exact ⟨s, s', e, hget, hcall, hrelayed, he, hnested p e hp he⟩

theorem repeats_of_records {calls : List (StartedCall σ)} {records : List OperationRecord}
    (hi : Invoked s calls s')
    (h : List.Forall₂ (fun c record => Engine.record? c.step.name c.call.result = some record)
      calls records) :
    List.Forall₂ OperationReport.Repeats calls (records.map OperationRecord.report) := by
  induction hi generalizing records with
  | nil =>
    cases h
    exact .nil
  | cons hcall _ ih =>
    cases h with
    | cons hrecord hrest => exact .cons (repeats_of_record? hcall hrecord) (ih hrest)

/-- **A report repeats what was raised.** The report of a deployment that ended with a result has
one operation for the call of each resource, in order, and it tells the error that the call raised,
or the one that the message of this error holds. -/
theorem report_repeats (hd : (Engine.deploy mode g template parameters token).run s = (d, s'))
    (hr : d.result = .ok result) :
    ∃ t p, Plan.readDocuments template parameters = .ok (t, p) ∧
      d.calls.map (·.step.name) = t.resources.map ResourceDeclaration.name ∧
      List.Forall₂ OperationReport.Repeats d.calls result.report.operations := by
  cases hm : (Plan.make mode template parameters g).1 with
  | error f =>
    rw [Engine.deploy_of_error hm] at hd
    obtain ⟨rfl, -⟩ := Prod.mk.inj hd
    cases hr
  | ok plan =>
    obtain ⟨t, p, hread, -, hsteps, -⟩ := make_ok hm
    rw [Engine.deploy_of_plan hm] at hd
    obtain ⟨rfl, rfl⟩ := Prod.mk.inj hd
    have hruns := Engine.runs_run plan.steps token 0 s
    obtain ⟨records, hending, rfl⟩ := result_ofRun hr
    obtain ⟨hcalls, hrecords⟩ := hruns.finished hending
    refine ⟨t, p, hread, ?_, ?_⟩
    · calc _ = (((Engine.run plan.steps token 0).run s).1.calls.map StartedCall.step).map
            Step.name := by
            rw [List.map_map]
            rfl
        _ = plan.steps.map Step.name := by rw [hcalls]
        _ = t.resources.map ResourceDeclaration.name :=
            map_eq_of_forall₂ (hsteps.imp fun _ _ => StepFor.name)
    · show List.Forall₂ _ _ ((Engine.conclude plan.outputs records).operations.map _)
      rw [Engine.operations_conclude]
      exact repeats_of_records hruns.invoked hrecords

end Reports

/-! ## A service that misleads -/

/-- A template that reads one repository. -/
def reading : String :=
  "\x7b\"imports\":\x7b\"g\":\x7b\"provider\":\"Github\",\"version\":\"0.0.1\"," ++
    "\"config\":\x7b\"token\":\"t\"\x7d\x7d\x7d,\"resources\":[\x7b\"name\":\"r\"," ++
    "\"import\":\"g\",\"type\":\"Repository\",\"existing\":true," ++
    "\"properties\":\x7b\"owner\":\"o\",\"name\":\"n\"\x7d\x7d]\x7d"

/-- What a service says that puts an error of its own into its message. -/
def misleading : String := "\x7b\"code\":\"X\",\"target\":\"y\"\x7d"

/-- The registry of the repository provider, with a service that fails and misleads. -/
def misled : Registry (Provider Unit) :=
  (∅ : Registry (Provider Unit)).register Repository.key fun _ =>
    Repository.provider (Repository.Service.standard.withBaseUrl "http://[::1]") fun _ =>
      pure (.quick (some ⟨404, Text.encode
        "\x7b\"message\":\"\x7b\\\"code\\\":\\\"X\\\",\\\"target\\\":\\\"y\\\"\x7d\"\x7d"⟩))

/-- The error that the service made up is reported, and not the one that the provider raised. -/
theorem report_repeats_misled :
    ∃ d s' result, (Engine.deploy .normal misled reading "" .never).run () = (d, s') ∧
      d.result = .ok result ∧
      d.calls.map (fun c => raised? c.call.result) = [some ⟨"Repository", misleading, "o/n"⟩] ∧
      result.report.operations.map OperationReport.error = [some ⟨"X", "", "y"⟩] ∧
      ∃ t p, Plan.readDocuments reading "" = .ok (t, p) ∧
        d.calls.map (·.step.name) = t.resources.map ResourceDeclaration.name ∧
        List.Forall₂ OperationReport.Repeats d.calls result.report.operations := by
  have hrun : (match ((Engine.deploy .normal misled reading "" .never).run ()).1.result with
      | .error _ => false
      | .ok result => decide
          (result.report.operations.map OperationReport.error = [some ⟨"X", "", "y"⟩])) = true ∧
      ((Engine.deploy .normal misled reading "" .never).run ()).1.calls.map
        (fun c => raised? c.call.result) = [some ⟨"Repository", misleading, "o/n"⟩] := by
    decide +kernel
  rcases hd : (Engine.deploy .normal misled reading "" .never).run () with ⟨d, s'⟩
  rw [hd] at hrun
  cases hr : d.result with
  | error f => simp [hr] at hrun
  | ok result =>
    rw [hr] at hrun
    obtain ⟨herror, hraised⟩ := hrun
    exact ⟨d, s', result, rfl, hr, hraised, of_decide_eq_true herror, report_repeats hd hr⟩

end Provision
