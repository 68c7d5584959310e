import Provision.Proofs.Calls
import Provision.Proofs.Timeline

/-!
# Cancellation

`Deployment.Obeys` says what a deployment does on the timeline of its steps when its token is
cancelled at some instant, before it starts or never: which steps it starts and when, and when and
how it ends. A deployment obeys its timeline if no call of it cancels the token, or starts or ends
at the very instant at which it is cancelled (`deploy_obeys`).
-/

namespace Provision

/-! ## Deployments -/

/-- What a deployment of a plan does on the timeline of its steps. -/
structure Deployment.Obeys {σ : Type} (token : Cancellation) (plan : Plan (Provider σ))
    (cs : List Call) (d : Deployment σ) : Prop where
  /-- A step is started if all before it pass and the token is not cancelled then. -/
  started : ∀ k, k < d.calls.length ↔
    ∃ start, k < plan.steps.length ∧ Reached token cs 0 k start ∧
      token.isCancelledBy (some start) = false
  /-- The calls are those of the steps, at the instants at which they are reached. -/
  calls : ∀ k c, d.calls[k]? = some c →
    plan.steps[k]? = some c.step ∧ cs[k]? = some c.call ∧ Reached token cs 0 k c.start
  /-- No call is started once the token is cancelled. -/
  notLate : ∀ c ∈ d.calls, token.isCancelledBy (some c.start) = false
  /-- It ends as cancelled if a step is reached with the token cancelled before or during it, or a
  call ends as cancelled. -/
  cancelled : d.instant.isSome ∧ d.result = .error .cancelled ↔
    (∃ k, Interrupted token cs 0 k) ∨ ∃ k stop, Withdrawn token cs 0 k stop
  /-- It ends at once if the token was cancelled before. -/
  already : ∀ k, Interrupted token cs 0 k → token = .already → d.instant = some 0 ∧ d.calls = []
  /-- It ends when the token is cancelled. -/
  interrupted : ∀ k T, Interrupted token cs 0 k → token = .after T → d.instant = some T
  /-- It ends with the call that ends as cancelled. -/
  withdrawn : ∀ k stop, Withdrawn token cs 0 k stop → d.instant = some stop
  /-- It ends with a result if all calls pass. -/
  finished : (∃ result, d.result = .ok result) ↔ ∃ start, Reached token cs 0 cs.length start
  /-- The result is that of the records of all calls. -/
  result : ∀ start, Reached token cs 0 cs.length start → d.instant = some start ∧
    ∃ records, d.result = .ok (Engine.conclude plan.outputs records) ∧
      List.Forall₂ (fun c record => Engine.record? c.step.name c.call.result = some record)
        d.calls records
  /-- It does not end if a call never ends and the token is never cancelled. -/
  endless : d.instant = none ↔ ∃ k, Endless token cs 0 k

section Deployments

variable {σ : Type} {token : Cancellation} {outputs : Table DeploymentOutput} {cs : List Call}
  {k start : Nat} {r : Run σ}

theorem ofRun_finished {records : List OperationRecord} (h : r.ending = .finished records) :
    (Deployment.ofRun token outputs r).result = .ok (Engine.conclude outputs records) := by
  unfold Deployment.ofRun
  rw [h]

theorem ofRun_cancelled (h : r.ending = .cancelled) :
    (Deployment.ofRun token outputs r).result = .error .cancelled := by
  unfold Deployment.ofRun
  rw [h]

namespace Over

theorem cancelled_iff (h : Over token k start r cs[k]?) (hr : Reached token cs 0 k start) :
    r.instant.isSome ∧ (Deployment.ofRun token outputs r).result = .error .cancelled ↔
      (∃ k, Interrupted token cs 0 k) ∨ ∃ k stop, Withdrawn token cs 0 k stop := by
  constructor
  · rintro ⟨hsome, hresult⟩
    generalize hk : cs[k]? = c? at h
    cases h with
    | finished hend _ _ =>
      rw [ofRun_finished hend] at hresult
      cases hresult
    | refused htoken _ _ _ _ => exact .inl ⟨k, _, start, hk, hr, by rw [htoken]; rfl⟩
    | interrupted _ hby _ _ _ => exact .inl ⟨k, _, start, hk, hr, hby⟩
    | withdrawn hstop hby hc _ _ _ => exact .inr ⟨k, _, _, start, hk, hr, hstop, hby, hc⟩
    | endless _ _ _ hnone _ => simp [hnone] at hsome
  · rintro (⟨l, hl⟩ | ⟨l, stop, hl⟩)
    · obtain ⟨hend, ⟨-, -, hinstant⟩ | ⟨T, -, hinstant⟩⟩ := h.of_interrupted hr hl
      · exact ⟨by rw [hinstant]; rfl, ofRun_cancelled hend⟩
      · exact ⟨by rw [hinstant]; rfl, ofRun_cancelled hend⟩
    · obtain ⟨hend, hinstant⟩ := h.of_withdrawn hr hl
      exact ⟨by rw [hinstant]; rfl, ofRun_cancelled hend⟩

theorem finished_iff (h : Over token k start r cs[k]?) (hr : Reached token cs 0 k start) :
    (∃ result, (Deployment.ofRun token outputs r).result = .ok result) ↔
      ∃ start, Reached token cs 0 cs.length start := by
  constructor
  · rintro ⟨result, hresult⟩
    generalize hk : cs[k]? = c? at h
    cases h with
    | finished _ _ _ =>
      have hlen : k = cs.length := Nat.le_antisymm hr.le_length (List.getElem?_eq_none_iff.1 hk)
      exact ⟨start, hlen ▸ hr⟩
    | refused _ hend _ _ _ => simp [ofRun_cancelled hend] at hresult
    | interrupted _ _ hend _ _ => simp [ofRun_cancelled hend] at hresult
    | withdrawn _ _ _ hend _ _ => simp [ofRun_cancelled hend] at hresult
    | endless _ _ hend _ _ => simp [ofRun_cancelled hend] at hresult
  · rintro ⟨start', hl⟩
    obtain ⟨⟨records, hend⟩, -⟩ := h.of_all hr hl
    exact ⟨_, ofRun_finished hend⟩

theorem endless_iff (h : Over token k start r cs[k]?) (hr : Reached token cs 0 k start) :
    r.instant = none ↔ ∃ k, Endless token cs 0 k := by
  constructor
  · intro hnone
    generalize hk : cs[k]? = c? at h
    cases h with
    | finished _ hinstant _ => simp [hinstant] at hnone
    | refused _ _ hinstant _ _ => simp [hinstant] at hnone
    | interrupted _ _ _ hinstant _ => simp [hinstant] at hnone
    | withdrawn _ _ _ _ hinstant _ => simp [hinstant] at hnone
    | endless hstop hby _ _ _ => exact ⟨k, _, start, hk, hr, hstop, hby⟩
  · rintro ⟨l, hl⟩
    exact h.of_endless hr hl

end Over

/-- A run obeys the timeline of its steps. -/
theorem Engine.Runs.obeys {plan : Plan (Provider σ)} {s s' : σ}
    (h : Runs plan.steps token 0 s r s') (ha : r.Apart token) :
    (Deployment.ofRun token plan.outputs r).Obeys token plan
      ((answers plan.steps).run s).1 := by
  have hlen := length_answers plan.steps s
  obtain ⟨k, start, hr, hover⟩ := h.stops ha fun T _ => Nat.zero_le T
  refine
    { started := fun l => ⟨fun hl => ?_, fun ⟨start', hl, hreach, hby⟩ => ?_⟩
      calls := fun l c hl => ?_
      notLate := fun c hc => ?_
      cancelled := hover.cancelled_iff hr
      already := fun l hl htoken => ?_
      interrupted := fun l T hl htoken => ?_
      withdrawn := fun l stop hl => (hover.of_withdrawn hr hl).2
      finished := hover.finished_iff hr
      result := fun start' hl => ?_
      endless := hover.endless_iff hr }
  · obtain ⟨hstep, -, hreach, hby⟩ := h.started ha (List.getElem?_eq_getElem hl)
    exact ⟨_, (List.getElem?_eq_some_iff.1 hstep).1, hreach, hby⟩
  · exact hover.lt_length hr (hlen ▸ hl) hreach hby
  · obtain ⟨hstep, hcall, hreach, -⟩ := h.started ha hl
    exact ⟨hstep, hcall, hreach⟩
  · obtain ⟨l, hl⟩ := List.getElem?_of_mem hc
    exact (h.started ha hl).2.2.2
  · subst htoken
    obtain ⟨-, ⟨-, hcalls, hinstant⟩ | ⟨T, htoken, -⟩⟩ := hover.of_interrupted hr hl
    · exact ⟨hinstant, hcalls⟩
    · cases htoken
  · subst htoken
    obtain ⟨-, ⟨htoken, -, -⟩ | ⟨T', htoken, hinstant⟩⟩ := hover.of_interrupted hr hl
    · cases htoken
    · cases htoken
      exact hinstant
  · obtain ⟨⟨records, hend⟩, hinstant⟩ := hover.of_all hr hl
    exact ⟨hinstant, records, ofRun_finished hend, (h.finished hend).2⟩

/-- **Cancellation.** A deployment none of whose calls cancels the token, or starts or ends just
when it is cancelled, obeys its timeline, whether or not its calls heed the token. -/
theorem deploy_obeys {mode : Mode} {g : Registry (Provider σ)} {template parameters : String}
    {plan : Plan (Provider σ)} {s s' : σ} {d : Deployment σ}
    (hm : (Plan.make mode template parameters g).1 = .ok plan)
    (hd : (Engine.deploy mode g template parameters token).run s = (d, s'))
    (ha : ∀ c ∈ d.calls, c.call.trips = false ∧ token.Avoids c.start (c.call.stop c.start)) :
    d.Obeys token plan ((Engine.answers plan.steps).run s).1 := by
  rw [Engine.deploy_of_plan hm] at hd
  obtain ⟨rfl, -⟩ := Prod.mk.inj hd
  exact (Engine.runs_run plan.steps token 0 s).obeys ha

/-- The registry of one provider whose saves take five milliseconds and whose reads never end. -/
def stallingReaders : Registry (Provider Unit) :=
  (∅ : Registry (Provider Unit)).register ⟨"P", "1"⟩ fun _ =>
    { name := "P"
      invoke := fun o r => pure
        { duration := if o = .save then some 5 else none
          result := .ok (.succeeded (.bare r.resourceType))
          heeds := false
          trips := false
          effects := [] } }

/-- The read that never ends is given up when the token is cancelled. -/
theorem deploy_obeys_stallingReaders :
    ∃ plan d s', (Plan.make .normal newAndExisting "" stallingReaders).1 = .ok plan ∧
      (Engine.deploy .normal stallingReaders newAndExisting "" (.after 7)).run () = (d, s') ∧
      d.Obeys (.after 7) plan ((Engine.answers plan.steps).run ()).1 ∧
      d.calls.map StartedCall.start = [0, 5] ∧ d.instant = some 7 := by
  have hrun : (Plan.make .normal newAndExisting "" stallingReaders).1.isOk = true ∧
      ((Engine.deploy .normal stallingReaders newAndExisting "" (.after 7)).run ()).1.calls.all
        (fun c => decide (c.call.trips = false ∧ c.start ≠ 7 ∧ c.call.stop c.start ≠ some 7)) =
          true ∧
      ((Engine.deploy .normal stallingReaders newAndExisting "" (.after 7)).run ()).1.calls.map
        StartedCall.start = [0, 5] ∧
      ((Engine.deploy .normal stallingReaders newAndExisting "" (.after 7)).run ()).1.instant =
        some 7 := by
    decide +kernel
  obtain ⟨hplan, hcalls, hstarts, hinstant⟩ := hrun
  rcases hd : (Engine.deploy .normal stallingReaders newAndExisting "" (.after 7)).run () with
    ⟨d, s'⟩
  rw [hd] at hcalls hstarts hinstant
  cases hm : (Plan.make .normal newAndExisting "" stallingReaders).1 with
  | error f => simp [hm, Except.isOk, Except.toBool] at hplan
  | ok plan =>
    have hall : ∀ c ∈ d.calls,
        c.call.trips = false ∧ c.start ≠ 7 ∧ c.call.stop c.start ≠ some 7 := by
      simpa using hcalls
    refine ⟨plan, d, s', rfl, rfl, deploy_obeys hm hd fun c hc => ⟨(hall c hc).1, ?_⟩, hstarts,
      hinstant⟩
    rintro T ⟨⟩
    exact (hall c hc).2

end Deployments

end Provision
