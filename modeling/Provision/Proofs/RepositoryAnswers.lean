import Provision.Proofs.Bundled
import Provision.Proofs.LoneCalls

/-!
# The answers of the repository provider

`Answers` says all that the repository provider does with a request, next to a token that may be
cancelled. A template that asks for what is not offered, gives no credential or names no repository
gets a fault, and no message is sent. From then on whatever goes wrong is an error of the resource:
that no message can be made, that it gets lost, that the service fails, and that its answer is no
Json (`Fails`). There is no fault any more, but for a token that is cancelled in the meantime.
-/

namespace Provision.Repository

/-! ## What is asked and what is answered -/

section Reading

variable (service : Service) (credential : String) (body : RepositoryRequest)
  (deliver : Message → Delivery)

/-- The message that asks for a repository. -/
inductive Asks : Message → Prop
  | sent {url : Url} (hagent : isHeaderText service.userAgent = true)
    (hurl : service.repositoryUrl body.owner body.name = .ok url)
    (hcredential : isHeaderText credential = true)
    (htarget : isTarget url.withoutCredentials = true) :
    Asks ⟨url.withoutCredentials, "application/vnd.github+json", "Bearer " ++ credential,
      service.userAgent⟩

/-- Why there is no message, the first reason first. -/
inductive Unsendable : String → Prop
  | agent (hagent : isHeaderText service.userAgent = false) :
    Unsendable "failed to build HTTP client: builder error"
  /-- Owner and name do not lead to a URL. -/
  | url {f : RepositoryFault} (hagent : isHeaderText service.userAgent = true)
    (hurl : service.repositoryUrl body.owner body.name = .error f) : Unsendable f.message
  | credential {url : Url} (hagent : isHeaderText service.userAgent = true)
    (hurl : service.repositoryUrl body.owner body.name = .ok url)
    (hcredential : isHeaderText credential = false) : Unsendable "builder error"
  | target {url : Url} (hagent : isHeaderText service.userAgent = true)
    (hurl : service.repositoryUrl body.owner body.name = .ok url)
    (hcredential : isHeaderText credential = true)
    (htarget : isTarget url.withoutCredentials = false) :
    Unsendable ("builder error for url (" ++ url.withoutCredentials.text ++ ")")

/-- The message was sent, and the answer came in time. -/
def Answered (reply : Reply) : Prop :=
  ∃ m t, Asks service credential body m ∧ (deliver m).duration = some t ∧ t < service.timeout ∧
    (deliver m).reply = some reply

/-- What a service says that failed: the text that it calls its message, or else its status. -/
inductive Says (reply : Reply) : String → Prop
  | message {j : Json} {text : String} (hj : Json.parse reply.text = .ok j)
    (ht : j.member? "message" = some (.string text)) : Says reply text
  | status (h : ∀ j text, Json.parse reply.text = .ok j →
      j.member? "message" ≠ some (.string text)) : Says reply ("HTTP " ++ toString reply.status)

/-- The service did what it was asked. -/
def Succeeds (reply : Reply) : Prop := 200 ≤ reply.status ∧ reply.status < 300

/-- The repository was read: the service did what it was asked, and its answer is Json. -/
def Fetches (j : Json) : Prop :=
  ∃ reply, Answered service credential body deliver reply ∧ Succeeds reply ∧
    Json.parse reply.text = .ok j

/-- The ways in which a repository cannot be read, each with what is said of it. -/
inductive Fails : String → Prop
  | unsent {text : String} (h : Unsendable service credential body text) : Fails text
  /-- The message was sent, and no answer came in time. -/
  | lost {m : Message} (hm : Asks service credential body m)
    (h : ∀ reply, ¬ Answered service credential body deliver reply) :
    Fails ("error sending request for url (" ++ m.url.text ++ ")")
  /-- The service says that it failed. -/
  | failed {reply : Reply} {text : String} (h : Answered service credential body deliver reply)
    (hs : ¬ Succeeds reply) (ht : Says reply text) : Fails text
  /-- The answer is no Json. -/
  | garbled {reply : Reply} {e : Json.ReadError}
    (h : Answered service credential body deliver reply) (hs : Succeeds reply)
    (he : Json.parse reply.text = .error e) : Fails ("invalid response body: " ++ e.message)

/-- The result of a read that is not cancelled: a response, never a fault. -/
structure Concludes (result : CallResult) : Prop where
  responds : ∃ response, result = .ok response
  succeeded : ∀ resource, result = .ok (.succeeded resource) ↔
    ∃ j, Fetches service credential body deliver j ∧ resource = ⟨"Repository", j⟩
  failed : ∀ errors, result = .ok (.failed errors) ↔
    ∃ text, Fails service credential body deliver text ∧
      errors = .one ⟨"Repository", text, body.owner ++ "/" ++ body.name⟩

/-- How long an answer is waited for. -/
def pendingTime (d : Delivery) : Nat :=
  match d.duration with
  | none => service.timeout
  | some t => min t service.timeout

/-- What becomes of a request that is in order. -/
structure Reads {σ : Type} (carry : Carrier σ) (s : σ) (c : Call) (s' : σ) : Prop where
  /-- One message is sent, and then its answer is waited for. -/
  sent : ∀ m, Asks service credential body m →
    c.effects = [.exchange m] ∧ s' = ((carry m).run s).2 ∧
      ∀ start, c.stop start = some (start + pendingTime service ((carry m).run s).1)
  unsent : ∀ text, Unsendable service credential body text →
    c.effects = [] ∧ s' = s ∧ ∀ start, c.stop start = some start
  cancelled : ∀ token start instant, token.Catches start (c.stop start) instant →
    c.endsAt token start = some instant ∧ c.outcomeFrom token start = .error .cancelled
  concluded : ∀ token start, token.Misses (c.stop start) →
    c.endsAt token start = c.stop start ∧
      Concludes service credential body (fun m => ((carry m).run s).1) (c.outcomeFrom token start)

end Reading

/-- What the provider does with a request. -/
structure Answers {σ : Type} (service : Service) (carry : Carrier σ) (o : Operation)
    (r : OperationRequest) (s : σ) (c : Call) (s' : σ) : Prop where
  /-- Nothing but reads of repositories is offered, whatever the settings and properties are. -/
  refused : ¬ (o = .get ∧ r.resourceType = "Repository") →
    c.AtOnce (.error (.notSupported "Github" o r.resourceType)) ∧ s' = s
  /-- A request without a credential is refused, whatever its properties are. -/
  unauthorized : o = .get → r.resourceType = "Repository" →
    (∀ credential, r.importConfig.get? "token" ≠ some (.string credential)) →
      c.AtOnce (.error (.configuration "import config for Github requires a string 'token'")) ∧
        s' = s
  misfit : ∀ credential e, o = .get → r.resourceType = "Repository" →
    r.importConfig.get? "token" = some (.string credential) →
    r.read RepositoryRequest.shape = .error e →
      c.AtOnce (.error (.invalidProperties "Repository" e.message)) ∧ s' = s
  reads : ∀ credential body, o = .get → r.resourceType = "Repository" →
    r.importConfig.get? "token" = some (.string credential) →
    r.read RepositoryRequest.shape = .ok body → Reads service credential body carry s c s'

/-! ## Messages and answers -/

section Readings

variable {service : Service} {credential : String} {body : RepositoryRequest}
  {deliver : Message → Delivery} {reply : Reply} {text : String} {m : Message}

/-- The message, with what is checked for it in order. -/
theorem message_eq : service.message credential body =
    match isHeaderText service.userAgent, service.repositoryUrl body.owner body.name with
    | false, _ => .error (.client .header)
    | true, .error f => .error f
    | true, .ok url =>
      match isHeaderText credential, isTarget url.withoutCredentials with
      | false, _ => .error (.transport .header)
      | true, false => .error (.transport (.target url.withoutCredentials))
      | true, true => .ok ⟨url.withoutCredentials, acceptedType, "Bearer " ++ credential,
          service.userAgent⟩ := by
  unfold Service.message
  cases isHeaderText service.userAgent with
  | false => rfl
  | true =>
    cases service.repositoryUrl body.owner body.name with
    | error f => rfl
    | ok url =>
      dsimp only [bind, Except.bind]
      cases isHeaderText credential with
      | false => rfl
      | true => cases isTarget url.withoutCredentials <;> rfl

theorem message_of_asks (h : Asks service credential body m) :
    service.message credential body = .ok m := by
  obtain ⟨hagent, hurl, hcredential, htarget⟩ := h
  rw [message_eq, hagent, hurl]
  dsimp only
  rw [hcredential, htarget]
  rfl

theorem message_of_unsendable (h : Unsendable service credential body text) :
    ∃ f, service.message credential body = .error f ∧ text = f.message := by
  rw [message_eq]
  cases h with
  | agent hagent =>
    refine ⟨.client .header, ?_, rfl⟩
    rw [hagent]
  | @url f hagent hurl =>
    refine ⟨f, ?_, rfl⟩
    rw [hagent, hurl]
  | credential hagent hurl hcredential =>
    refine ⟨.transport .header, ?_, rfl⟩
    rw [hagent, hurl]
    dsimp only
    rw [hcredential]
  | @target url hagent hurl hcredential htarget =>
    refine ⟨.transport (.target url.withoutCredentials), ?_, rfl⟩
    rw [hagent, hurl]
    dsimp only
    rw [hcredential, htarget]

/-- Either there is a message or there is a reason why not. -/
theorem asks_or_unsendable (service : Service) (credential : String) (body : RepositoryRequest) :
    (∃ m, Asks service credential body m) ∨ ∃ text, Unsendable service credential body text := by
  cases hagent : isHeaderText service.userAgent with
  | false => exact .inr ⟨_, .agent hagent⟩
  | true =>
    cases hurl : service.repositoryUrl body.owner body.name with
    | error f => exact .inr ⟨_, .url hagent hurl⟩
    | ok url =>
      cases hcredential : isHeaderText credential with
      | false => exact .inr ⟨_, .credential hagent hurl hcredential⟩
      | true =>
        cases htarget : isTarget url.withoutCredentials with
        | false => exact .inr ⟨_, .target hagent hurl hcredential htarget⟩
        | true => exact .inl ⟨_, .sent hagent hurl hcredential htarget⟩

/-- Whoever waits for a limited time gets the answers that come in time. -/
theorem reply_within {limit : Nat} {d : Delivery} : (d.within limit).reply = some reply ↔
    ∃ t, d.duration = some t ∧ t < limit ∧ d.reply = some reply := by
  unfold Delivery.within
  cases hd : d.duration with
  | none => simp
  | some t => by_cases ht : t < limit <;> simp [ht]

theorem answered_iff (hm : Asks service credential body m) :
    Answered service credential body deliver reply ↔
      ((deliver m).within service.timeout).reply = some reply := by
  rw [reply_within]
  constructor
  · rintro ⟨m', t, hm', ht⟩
    obtain rfl : m = m' :=
      Except.ok.inj ((message_of_asks hm).symm.trans (message_of_asks hm'))
    exact ⟨t, ht⟩
  · rintro ⟨t, ht⟩
    exact ⟨m, t, hm, ht⟩

theorem eq_failureMessage (h : Says reply text) : text = failureMessage reply := by
  unfold failureMessage
  cases h with
  | message hj ht =>
    rw [hj]
    dsimp only
    rw [ht]
    rfl
  | status h =>
    cases hj : Json.parse reply.text with
    | error e => rfl
    | ok j =>
      have hnone : (j.member? "message").bind Json.text? = none := by
        rw [Option.bind_eq_none_iff]
        intro value hvalue
        cases value with
        | string text => exact absurd hvalue (h j text hj)
        | null | bool _ | number _ | array _ | object _ => rfl
      dsimp only
      rw [hnone]
      rfl

theorem says_failureMessage (reply : Reply) : Says reply (failureMessage reply) := by
  by_cases h : ∃ j text, Json.parse reply.text = .ok j ∧ j.member? "message" = some (.string text)
  · obtain ⟨j, text, hj, ht⟩ := h
    have hsays : Says reply text := .message hj ht
    exact eq_failureMessage hsays ▸ hsays
  · have hsays : Says reply ("HTTP " ++ toString reply.status) :=
      .status fun j text hj ht => h ⟨j, text, hj, ht⟩
    exact eq_failureMessage hsays ▸ hsays

theorem isSuccess_iff : reply.isSuccess = true ↔ Succeeds reply := by
  unfold Reply.isSuccess Succeeds
  rw [Bool.and_eq_true, decide_eq_true_iff, decide_eq_true_iff]

/-! ## What is read -/

/-- What becomes of the attempt to read a repository. -/
def fetched (service : Service) (credential : String) (body : RepositoryRequest)
    (deliver : Message → Delivery) : Except RepositoryFault Json :=
  match service.message credential body with
  | .error f => .error f
  | .ok m => readDelivery m ((deliver m).within service.timeout)

theorem fetched_of_asks (hm : Asks service credential body m) :
    fetched service credential body deliver =
      readDelivery m ((deliver m).within service.timeout) := by
  unfold fetched
  rw [message_of_asks hm]

theorem fetched_of_answered (h : Answered service credential body deliver reply) :
    fetched service credential body deliver = readReply reply := by
  obtain ⟨m, t, hm, ht⟩ := h
  rw [fetched_of_asks hm, readDelivery, reply_within.2 ⟨t, ht⟩]

theorem fetched_of_fetches {j : Json} (h : Fetches service credential body deliver j) :
    fetched service credential body deliver = .ok j := by
  obtain ⟨reply, hreply, hs, hj⟩ := h
  rw [fetched_of_answered hreply, readReply, if_pos (isSuccess_iff.2 hs), hj]
  rfl

theorem fetched_of_fails (h : Fails service credential body deliver text) :
    ∃ f, fetched service credential body deliver = .error f ∧ text = f.message := by
  cases h with
  | unsent h =>
    obtain ⟨f, hf, htext⟩ := message_of_unsendable h
    refine ⟨f, ?_, htext⟩
    rw [fetched, hf]
  | @lost m hm hno =>
    have hnone : ((deliver m).within service.timeout).reply = none :=
      Option.eq_none_iff_forall_ne_some.2 fun reply h => hno reply ((answered_iff hm).2 h)
    refine ⟨.transport (.sending m.url), ?_, rfl⟩
    rw [fetched_of_asks hm, readDelivery, hnone]
  | @failed reply text hreply hs hsays =>
    refine ⟨.status reply.status text, ?_, rfl⟩
    rw [fetched_of_answered hreply, readReply, if_neg (isSuccess_iff.not.2 hs),
      eq_failureMessage hsays]
  | @garbled reply e hreply hs he =>
    refine ⟨.invalidBody e.message, ?_, rfl⟩
    rw [fetched_of_answered hreply, readReply, if_pos (isSuccess_iff.2 hs), he]
    rfl

/-- A repository is read, or there is something to be said of why not. -/
theorem fetches_or_fails (service : Service) (credential : String) (body : RepositoryRequest)
    (deliver : Message → Delivery) :
    (∃ j, Fetches service credential body deliver j) ∨
      ∃ text, Fails service credential body deliver text := by
  rcases asks_or_unsendable service credential body with ⟨m, hm⟩ | ⟨text, h⟩
  · by_cases hanswer : ∃ reply, Answered service credential body deliver reply
    · obtain ⟨reply, hreply⟩ := hanswer
      by_cases hs : Succeeds reply
      · cases hj : Json.parse reply.text with
        | ok j => exact .inl ⟨j, reply, hreply, hs, hj⟩
        | error e => exact .inr ⟨_, .garbled hreply hs hj⟩
      · exact .inr ⟨_, .failed hreply hs (says_failureMessage reply)⟩
    · exact .inr ⟨_, .lost hm fun reply hreply => hanswer ⟨reply, hreply⟩⟩
  · exact .inr ⟨text, .unsent h⟩

/-- The answer for what became of the attempt says what became of it. -/
theorem concludes_fetched : Concludes service credential body deliver
    (conclude repositoryType body.target (fetched service credential body deliver)) := by
  rcases fetches_or_fails service credential body deliver with ⟨j, hj⟩ | ⟨text, htext⟩
  · have hfetched := fetched_of_fetches hj
    rw [hfetched]
    refine
      { responds := ⟨_, rfl⟩
        succeeded := fun resource => ⟨fun h => ?_, fun h => ?_⟩
        failed := fun errors => ⟨fun h => ?_, fun h => ?_⟩ }
    · cases h
      exact ⟨j, hj, rfl⟩
    · obtain ⟨j', hj', rfl⟩ := h
      obtain rfl : j = j' := Except.ok.inj (hfetched.symm.trans (fetched_of_fetches hj'))
      rfl
    · cases h
    · obtain ⟨text, htext, -⟩ := h
      obtain ⟨f, hf, -⟩ := fetched_of_fails htext
      cases hfetched.symm.trans hf
  · obtain ⟨f, hfetched, rfl⟩ := fetched_of_fails htext
    rw [hfetched]
    refine
      { responds := ⟨_, rfl⟩
        succeeded := fun resource => ⟨fun h => ?_, fun h => ?_⟩
        failed := fun errors => ⟨fun h => ?_, fun h => ?_⟩ }
    · cases h
    · obtain ⟨j, hj, -⟩ := h
      cases hfetched.symm.trans (fetched_of_fetches hj)
    · cases h
      exact ⟨_, htext, rfl⟩
    · obtain ⟨text, htext, rfl⟩ := h
      obtain ⟨f', hf', rfl⟩ := fetched_of_fails htext
      obtain rfl : f = f' := Except.error.inj (hfetched.symm.trans hf')
      rfl

end Readings

/-! ## The provider -/

section Provider

variable {σ : Type} {service : Service} {carry : Carrier σ} {o : Operation} {r : OperationRequest}
  {s : σ}

theorem run_of_not_offers (h : ¬ (o = .get ∧ r.resourceType = repositoryType)) :
    ((provider service carry).invoke o r).run s =
      (.fault (.notSupported "Github" o r.resourceType), s) := by
  by_cases ho : o = .get
  · subst ho
    rw [invoke_get, if_neg fun ht => h ⟨rfl, ht⟩]
    rfl
  · rw [invoke_refused ho]
    rfl

theorem run_of_readRequest_error {f : ProviderFault} (ht : r.resourceType = repositoryType)
    (h : readRequest r = .error f) :
    ((provider service carry).invoke .get r).run s = (.fault f, s) := by
  rw [invoke_get, if_pos ht, getRepository, h]
  rfl

theorem configText?_eq_some {key text : String} :
    r.configText? key = some text ↔ r.importConfig.get? key = some (.string text) := by
  unfold OperationRequest.configText?
  rw [Option.bind_eq_some_iff]
  constructor
  · rintro ⟨j, hj, htext⟩
    cases j with
    | string text' =>
      obtain rfl := Option.some.inj htext
      exact hj
    | null | bool _ | number _ | array _ | object _ => cases htext
  · intro h
    exact ⟨_, h, rfl⟩

theorem readRequest_of_no_credential
    (h : ∀ credential, r.importConfig.get? "token" ≠ some (.string credential)) :
    readRequest r =
      .error (.configuration "import config for Github requires a string 'token'") := by
  have hnone : r.configText? tokenKey = none :=
    Option.eq_none_iff_forall_ne_some.2 fun text htext => h text (configText?_eq_some.1 htext)
  unfold readRequest
  rw [hnone]
  rfl

theorem readRequest_of_misfit {credential : String} {e : Json.ReadError}
    (h : r.importConfig.get? "token" = some (.string credential))
    (he : r.read RepositoryRequest.shape = .error e) :
    readRequest r = .error (.invalidProperties r.resourceType e.message) := by
  have hsome : r.configText? tokenKey = some credential := configText?_eq_some.2 h
  simp only [readRequest, hsome, he]

theorem readRequest_of_ok {credential : String} {body : RepositoryRequest}
    (h : r.importConfig.get? "token" = some (.string credential))
    (hbody : r.read RepositoryRequest.shape = .ok body) :
    readRequest r = .ok (credential, body) := by
  have hsome : r.configText? tokenKey = some credential := configText?_eq_some.2 h
  simp only [readRequest, hsome, hbody]

theorem pendingTime_within (d : Delivery) :
    (d.within service.timeout).duration = some (pendingTime service d) := by
  unfold Delivery.within pendingTime
  cases hd : d.duration with
  | none => simp
  | some t =>
    by_cases ht : t < service.timeout
    · simp [ht, hd, Nat.min_eq_left (Nat.le_of_lt ht)]
    · simp [ht, Nat.min_eq_right (Nat.le_of_not_lt ht)]

/-- A call that heeds the token and ends of itself with what was fetched. -/
theorem concludes_of_result {credential : String} {body : RepositoryRequest}
    {deliver : Message → Delivery} {c : Call} {token : Cancellation} {start : Nat}
    (hc : c.result = conclude repositoryType body.target
      (fetched service credential body deliver)) (h : token.Misses (c.stop start)) :
    c.endsAt token start = c.stop start ∧
      Concludes service credential body deliver (c.outcomeFrom token start) := by
  obtain ⟨hends, houtcome⟩ := Call.ends_of_misses h
  rw [houtcome, hc]
  exact ⟨hends, concludes_fetched⟩

/-- A request in order is a read. -/
theorem reads_invoke {credential : String} {body : RepositoryRequest}
    (ht : r.resourceType = repositoryType) (h : readRequest r = .ok (credential, body)) (s : σ) :
    ∃ c s', ((provider service carry).invoke .get r).run s = (c, s') ∧
      Reads service credential body carry s c s' := by
  rw [invoke_get, if_pos ht, getRepository, h, ht]
  rcases asks_or_unsendable service credential body with ⟨m, hm⟩ | ⟨text, htext⟩
  · have hmessage := message_of_asks hm
    dsimp only
    rw [hmessage]
    refine ⟨_, _, rfl,
      { sent := fun m' hm' => ?_
        unsent := fun text htext => ?_
        cancelled := fun token start instant hcaught => Call.ends_of_catches rfl hcaught
        concluded := fun token start hmissed => concludes_of_result ?_ hmissed }⟩
    · obtain rfl : m = m' := Except.ok.inj (hmessage.symm.trans (message_of_asks hm'))
      refine ⟨rfl, rfl, fun start => ?_⟩
      exact congrArg (Option.map (start + ·)) (pendingTime_within ((carry m).run s).1)
    · obtain ⟨f, hf, -⟩ := message_of_unsendable htext
      cases hmessage.symm.trans hf
    · rw [fetched_of_asks hm]
      rfl
  · obtain ⟨f, hf, -⟩ := message_of_unsendable htext
    dsimp only
    rw [hf]
    refine ⟨_, _, rfl,
      { sent := fun m hm => ?_
        unsent := fun _ _ => ⟨rfl, rfl, fun _ => rfl⟩
        cancelled := fun token start instant hcaught => Call.ends_of_catches rfl hcaught
        concluded := fun token start hmissed => concludes_of_result ?_ hmissed }⟩
    · cases hf.symm.trans (message_of_asks hm)
    · rw [fetched, hf]

/-- **The answers of the repository provider.** It handles every request as `Answers` says: a fault
is only what the template gets wrong, and whatever goes wrong on the way to the service or in its
answer is the one error of a failed response. -/
theorem provider_reads (service : Service) (carry : Carrier σ) (o : Operation)
    (r : OperationRequest) (s : σ) :
    ∃ c s', ((provider service carry).invoke o r).run s = (c, s') ∧
      Answers service carry o r s c s' := by
  rcases hrun : ((provider service carry).invoke o r).run s with ⟨c, s'⟩
  have heq : ∀ {c₀ s₀}, ((provider service carry).invoke o r).run s = (c₀, s₀) →
      c₀ = c ∧ s₀ = s' := fun h => Prod.mk.inj (h.symm.trans hrun)
  refine ⟨c, s', rfl,
    { refused := fun hn => ?_
      unauthorized := fun ho ht hnone => ?_
      misfit := fun credential e ho ht hcredential he => ?_
      reads := fun credential body ho ht hcredential hbody => ?_ }⟩
  · obtain ⟨rfl, rfl⟩ := heq (run_of_not_offers hn)
    exact ⟨Call.atOnce_answer _, rfl⟩
  · subst ho
    obtain ⟨rfl, rfl⟩ := heq (run_of_readRequest_error ht (readRequest_of_no_credential hnone))
    exact ⟨Call.atOnce_answer _, rfl⟩
  · subst ho
    have hread := readRequest_of_misfit hcredential he
    rw [ht] at hread
    obtain ⟨rfl, rfl⟩ := heq (run_of_readRequest_error ht hread)
    exact ⟨Call.atOnce_answer _, rfl⟩
  · subst ho
    obtain ⟨c₀, s₀, hrun₀, hreads⟩ := reads_invoke ht (readRequest_of_ok hcredential hbody) s
    obtain ⟨rfl, rfl⟩ := heq hrun₀
    exact hreads

end Provider

end Provision.Repository
