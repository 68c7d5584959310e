import Provision.Deployment.Local
import Provision.Proofs.Bundled
import Provision.Proofs.Durations
import Provision.Proofs.Reports
import Provision.Proofs.StructuralFaults
import Provision.Proofs.Utf8

/-!
# Deadlines

Three things may end a local deployment: its calls have taken their time, its token is cancelled, or
its limit goes off. `Deployment.Punctual` says that the first of them decides, what is reported
then, and that the calls that were started are those whose start lies before the other two
instants. A deployment none of whose calls cancels the token or ends as cancelled of itself is
punctual, unless two of these instants fall together (`deploy_punctual`). The time of a wait is the
one that it is told, up to thirty years; a longer one is over too early (`deploy_longestTimer`).

A limit only cuts off what goes on too long, so everything is told of the deployment without a limit
first (`Deployment.Obeys`), and then of what is left of it (`withinLimit`).
-/

namespace Provision

/-! ## Clear and punctual -/

/-- If what follows a bad item is bad, leaving out the bad items cuts a list short. -/
theorem getElem?_filter_of_pairwise {α : Type} {p : α → Bool} {l : List α}
    (h : l.Pairwise fun a b => p b = true → p a = true) (k : Nat) (c : α) :
    (l.filter p)[k]? = some c ↔ l[k]? = some c ∧ p c = true := by
  induction l generalizing k with
  | nil => simp
  | cons a l ih =>
    obtain ⟨hhead, htail⟩ := List.pairwise_cons.1 h
    cases hp : p a with
    | true =>
      rw [List.filter_cons_of_pos hp]
      cases k with
      | zero =>
        refine ⟨fun he => ⟨he, ?_⟩, And.left⟩
        obtain rfl : a = c := Option.some.inj he
        exact hp
      | succ k => exact ih htail k
    | false =>
      have hbad : ∀ b ∈ a :: l, p b = false := by
        intro b hb
        rcases List.mem_cons.1 hb with rfl | hb
        · exact hp
        · exact Bool.eq_false_iff.2 fun hpb => by rw [hhead b hb hpb] at hp; cases hp
      rw [List.filter_eq_nil_iff.2 fun b hb => by simp [hbad b hb]]
      refine ⟨fun he => by simp at he, fun ⟨hk, hc⟩ => ?_⟩
      rw [hbad c (List.mem_of_getElem? hk)] at hc
      cases hc

/-- Neither the token nor the limit goes off before the clock starts, or just when a call starts or
ends. -/
structure Cancellation.Clear (token : Cancellation) (limit : Option Nat) (cs : List Call) :
    Prop where
  onClock : token ≠ .already
  token : ∀ k t, Call.total (cs.take k) = some t → token ≠ .after t
  limit : ∀ k t, Call.total (cs.take k) = some t → ∀ L ∈ limit, L ≠ t

theorem Cancellation.Clear.isCancelledBy_zero {token : Cancellation} {limit : Option Nat}
    {cs : List Call} (h : token.Clear limit cs) : token.isCancelledBy (some 0) = false := by
  cases token with
  | never => rfl
  | already => exact absurd rfl h.onClock
  | after T =>
    have hne : T ≠ 0 := fun hT => h.token 0 0 rfl (by rw [hT])
    exact Cancellation.isCancelledBy_after.2 (Nat.pos_of_ne_zero hne)

/-- What a deployment of a plan with a limit does when its steps are answered by `cs`: whatever
comes first, of the end of the calls, the cancellation of the token and the limit, decides. The
report is the one of the undisturbed deployment if the calls end first. -/
structure Deployment.Punctual {σ : Type} (token : Cancellation) (limit : Option Nat)
    (plan : Plan (Provider σ)) (cs : List Call) (undisturbed : Except DeployFault DeploymentResult)
    (d : Deployment σ) : Prop where
  /-- A wait takes as long as it is told to, if its timer can run for so long. -/
  waits : ∀ (k : Nat) (x : Step (Provider σ)) (c : Call) (runner : Utility.Runner)
    (body : Utility.WaitRequest), plan.steps[k]? = some x → cs[k]? = some c →
    x.target.provider = Utility.provider runner → x.operation = .save →
    x.request.resourceType = Utility.waitType →
    x.request.read Utility.WaitRequest.shape = .ok body →
    body.milliseconds.toNat ≤ longestTimer → c.duration = some body.milliseconds.toNat
  /-- The calls are those whose start lies before both instants. -/
  calls : ∀ k c, d.calls[k]? = some c ↔
    plan.steps[k]? = some c.step ∧ cs[k]? = some c.call ∧
      Call.total (cs.take k) = some c.start ∧
      token.isCancelledBy (some c.start) = false ∧ ∀ L ∈ limit, c.start < L
  /-- The calls end first. -/
  finished : ∀ S, Call.total cs = some S → token.isCancelledBy (some S) = false →
    (∀ L ∈ limit, S < L) → d.instant = some S ∧ d.cancelled = false ∧
      ∃ result, undisturbed = .ok result ∧ d.report = .ok result.report
  /-- The token is cancelled first. -/
  cancelled : ∀ T, token = .after T → (∀ S ∈ Call.total cs, T < S) → (∀ L ∈ limit, T < L) →
    d.instant = some T ∧ d.cancelled = true ∧ d.report = .error .cancelled
  /-- The limit goes off first. -/
  timedOut : ∀ L ∈ limit, (∀ S ∈ Call.total cs, L < S) → token.isCancelledBy (some L) = false →
    d.instant = some L ∧ d.cancelled = true ∧ d.report = .error (.timedOut L)
  /-- Nothing ends it. -/
  endless : Call.total cs = none → token = .never → limit = none → d.instant = none

namespace Deployment.Obeys

variable {σ : Type} {token : Cancellation} {limit : Option Nat} {plan : Plan (Provider σ)}
  {cs : List Call} {d : Deployment σ}

section Obeying

variable (ho : d.Obeys token plan cs) (hcs : ∀ c ∈ cs, c.result ≠ .error .cancelled)
  (h₀ : token.isCancelledBy (some 0) = false)

include ho hcs h₀

/-- The calls that are started are those whose start lies before the cancellation. -/
theorem calls_iff (hlen : cs.length = plan.steps.length) (k : Nat) (c : StartedCall σ) :
    d.calls[k]? = some c ↔ plan.steps[k]? = some c.step ∧ cs[k]? = some c.call ∧
      Call.total (cs.take k) = some c.start ∧ token.isCancelledBy (some c.start) = false := by
  constructor
  · intro hk
    obtain ⟨hstep, hcall, hreach⟩ := ho.calls k c hk
    have hle : k ≤ cs.length := hreach.le_length
    obtain ⟨t, ht, hstart, hby⟩ := (reached_iff hcs hle h₀).1 hreach
    rw [Nat.zero_add] at hstart
    exact ⟨hstep, hcall, hstart ▸ ht, hby⟩
  · rintro ⟨hstep, hcall, ht, hby⟩
    have hlt : k < cs.length := (List.getElem?_eq_some_iff.1 hcall).1
    have hreach : Reached token cs 0 k c.start :=
      (reached_iff hcs (Nat.le_of_lt hlt) h₀).2 ⟨c.start, ht, (Nat.zero_add _).symm, hby⟩
    have hk : k < d.calls.length := (ho.started k).2 ⟨c.start, hlen ▸ hlt, hreach, hby⟩
    obtain ⟨hstep', hcall', hreach'⟩ := ho.calls k d.calls[k] (List.getElem?_eq_getElem hk)
    have hstart := hreach'.start_eq hreach
    rw [List.getElem?_eq_getElem hk]
    generalize d.calls[k] = c' at hstep' hcall' hstart
    obtain ⟨x, start, call⟩ := c
    obtain ⟨x', start', call'⟩ := c'
    obtain rfl : x' = x := Option.some.inj (hstep'.symm.trans hstep)
    obtain rfl : call' = call := Option.some.inj (hcall'.symm.trans hcall)
    obtain rfl : start' = start := hstart
    rfl

/-- A deployment ends when its calls have taken their time, or when its token is cancelled. -/
theorem ended (hf : ∀ f, d.result = .error f → f = .cancelled) {i : Nat}
    (hi : d.instant = some i) :
    (Call.total cs = some i ∧ token.isCancelledBy (some i) = false) ∨
      token = .after i ∧ d.result = .error .cancelled := by
  cases hr : d.result with
  | ok result =>
    obtain ⟨start, hreach⟩ := ho.finished.1 ⟨result, hr⟩
    obtain ⟨t, ht, hstart, hby⟩ := (reached_iff hcs (Nat.le_refl _) h₀).1 hreach
    obtain rfl : i = start := Option.some.inj (hi.symm.trans (ho.result start hreach).1)
    rw [Nat.zero_add] at hstart
    rw [List.take_length, ← hstart] at ht
    exact .inl ⟨ht, hby⟩
  | error f =>
    obtain rfl := hf f hr
    have hsome : d.instant.isSome := by
      rw [hi]
      rfl
    rcases ho.cancelled.1 ⟨hsome, hr⟩ with ⟨k, hk⟩ | ⟨k, stop, c, start, hk, -, -, -, hc⟩
    · cases token with
      | never =>
        obtain ⟨c, start, -, -, hby⟩ := hk
        cases hby
      | already => cases h₀
      | after T =>
        obtain rfl : i = T := Option.some.inj (hi.symm.trans (ho.interrupted k T hk rfl))
        exact .inr ⟨rfl, rfl⟩
    · exact absurd hc (hcs c (List.mem_of_getElem? hk))

end Obeying

end Deployment.Obeys

namespace Deployment

variable {σ : Type} {token : Cancellation} {limit : Option Nat} {d : Deployment σ}

/-- A deployment that ends in time is not given up. -/
theorem withinLimit_of_le {i : Nat} (hi : d.instant = some i) (hle : ∀ L ∈ limit, i ≤ L) :
    d.withinLimit limit = d := by
  cases limit with
  | none => rfl
  | some L => exact within_of_le hi (hle L rfl)

/-- A deployment that goes on when its limit goes off is given up. -/
theorem within_of_late {L : Nat} (hlate : ∀ i ∈ d.instant, L < i) :
    d.within L = ⟨.error (.timedOut L), d.calls.filter (·.start ≤ L), some L, true⟩ := by
  have hany : d.instant.any (· ≤ L) = false := by
    cases hi : d.instant with
    | none => rfl
    | some i =>
      have := hlate i hi
      simpa using this
  unfold within
  rw [hany]
  rfl

/-- Whether it is given up or not, the calls are those that start by the limit. -/
theorem calls_withinLimit (h : ∀ c ∈ d.calls, ∀ i ∈ d.instant, c.start ≤ i) :
    (d.withinLimit limit).calls = d.calls.filter fun c => limit.all (c.start ≤ ·) := by
  cases limit with
  | none => simp [withinLimit]
  | some L =>
    by_cases hlate : ∀ i ∈ d.instant, L < i
    · show (d.within L).calls = _
      rw [within_of_late hlate]
      rfl
    · obtain ⟨i, hi, hle⟩ : ∃ i ∈ d.instant, i ≤ L := by simpa using hlate
      rw [withinLimit_of_le hi (by simpa using hle)]
      refine (List.filter_eq_self.2 fun c hc => ?_).symm
      simpa using Nat.le_trans (h c hc i hi) hle

end Deployment

namespace Deployment.Obeys

variable {σ : Type} {token : Cancellation} {limit : Option Nat} {plan : Plan (Provider σ)}
  {cs : List Call} {d : Deployment σ} (ho : d.Obeys token plan cs)
  (hcs : ∀ c ∈ cs, c.result ≠ .error .cancelled) (h₀ : token.isCancelledBy (some 0) = false)
  (hlen : cs.length = plan.steps.length) (hf : ∀ f, d.result = .error f → f = .cancelled)

include ho hcs h₀ hlen

/-- Later calls start later. -/
theorem start_mono {k l : Nat} {c c' : StartedCall σ} (hkl : k ≤ l) (hk : d.calls[k]? = some c)
    (hl : d.calls[l]? = some c') : c.start ≤ c'.start := by
  obtain ⟨-, -, hc, -⟩ := (ho.calls_iff hcs h₀ hlen k c).1 hk
  obtain ⟨-, -, hc', -⟩ := (ho.calls_iff hcs h₀ hlen l c').1 hl
  exact Call.total_take_mono hkl hc hc'

include hf

theorem start_le_instant : ∀ c ∈ d.calls, ∀ i ∈ d.instant, c.start ≤ i := by
  intro c hc i hi
  obtain ⟨k, hk⟩ := List.getElem?_of_mem hc
  obtain ⟨-, -, hstart, hby⟩ := (ho.calls_iff hcs h₀ hlen k c).1 hk
  rcases ho.ended hcs h₀ hf hi with ⟨htotal, -⟩ | ⟨rfl, -⟩
  · obtain ⟨u, hu, hle⟩ := Call.total_take_le htotal k
    rw [hu] at hstart
    obtain rfl : u = c.start := Option.some.inj hstart
    exact hle
  · exact Nat.le_of_lt (Cancellation.isCancelledBy_after.1 hby)

/-- The calls of a deployment with a limit are those whose start lies before the cancellation and
before the limit. -/
theorem calls_withinLimit_iff
    (hclear : ∀ k t, Call.total (cs.take k) = some t → ∀ L ∈ limit, L ≠ t)
    (k : Nat) (c : StartedCall σ) :
    (d.withinLimit limit).calls[k]? = some c ↔
      plan.steps[k]? = some c.step ∧ cs[k]? = some c.call ∧
        Call.total (cs.take k) = some c.start ∧
        token.isCancelledBy (some c.start) = false ∧ ∀ L ∈ limit, c.start < L := by
  have hsorted : d.calls.Pairwise fun a b =>
      limit.all (b.start ≤ ·) = true → limit.all (a.start ≤ ·) = true := by
    refine List.pairwise_iff_getElem.2 fun i j hi hj hij hb => ?_
    have hle := ho.start_mono hcs h₀ hlen (Nat.le_of_lt hij) (List.getElem?_eq_getElem hi)
      (List.getElem?_eq_getElem hj)
    cases limit with
    | none => rfl
    | some L => exact decide_eq_true (Nat.le_trans hle (of_decide_eq_true hb))
  rw [calls_withinLimit (ho.start_le_instant hcs h₀ hlen hf),
    getElem?_filter_of_pairwise hsorted, ho.calls_iff hcs h₀ hlen]
  constructor
  · rintro ⟨⟨hstep, hcall, hstart, hby⟩, hle⟩
    refine ⟨hstep, hcall, hstart, hby, fun L hL => ?_⟩
    obtain rfl : limit = some L := hL
    have hne := hclear k c.start hstart L rfl
    have hle' : c.start ≤ L := of_decide_eq_true hle
    omega
  · rintro ⟨hstep, hcall, hstart, hby, hlt⟩
    refine ⟨⟨hstep, hcall, hstart, hby⟩, ?_⟩
    cases limit with
    | none => rfl
    | some L => exact decide_eq_true (Nat.le_of_lt (hlt L rfl))

omit hlen

/-- A deployment that never ends of itself is ended by its token. -/
theorem instant_eq_of_after {T : Nat} (htoken : token = .after T)
    (hlate : ∀ S ∈ Call.total cs, T < S) :
    d.instant = some T ∧ d.result = .error .cancelled := by
  subst htoken
  cases hi : d.instant with
  | none =>
    obtain ⟨k, c, start, -, -, -, hby⟩ := ho.endless.1 hi
    cases hby
  | some i =>
    rcases ho.ended hcs h₀ hf hi with ⟨htotal, hby⟩ | ⟨htoken, hresult⟩
    · have hlt := Cancellation.isCancelledBy_after.1 hby
      have := hlate i htotal
      omega
    · cases htoken
      exact ⟨rfl, hresult⟩

theorem instant_eq_none (htotal : Call.total cs = none) (htoken : token = .never) :
    d.instant = none := by
  cases hi : d.instant with
  | none => rfl
  | some i =>
    rcases ho.ended hcs h₀ hf hi with ⟨htotal', -⟩ | ⟨htoken', -⟩
    · rw [htotal] at htotal'
      cases htotal'
    · rw [htoken] at htoken'
      cases htoken'

/-- What goes on when all calls take longer and the token is cancelled later is late. -/
theorem lt_of_mem_instant {t : Nat} (hlate : ∀ S ∈ Call.total cs, t < S)
    (hby : token.isCancelledBy (some t) = false) : ∀ i ∈ d.instant, t < i := by
  intro i hi
  rcases ho.ended hcs h₀ hf hi with ⟨htotal, -⟩ | ⟨rfl, -⟩
  · exact hlate i htotal
  · exact Cancellation.isCancelledBy_after.1 hby

end Deployment.Obeys

section Limits

variable {σ : Type} {token : Cancellation} {limit : Option Nat} {plan : Plan (Provider σ)}
  {s s' : σ} {r : Run σ}

/-- Two runs of the same steps that both carry them out have the same result. -/
theorem Engine.Runs.result_eq {token' : Cancellation} {r' : Run σ} {s'' : σ}
    {result result' : DeploymentResult} (h : Runs plan.steps token 0 s r s')
    (h' : Runs plan.steps token' 0 s r' s'')
    (hr : (Deployment.ofRun token plan.outputs r).result = .ok result)
    (hr' : (Deployment.ofRun token' plan.outputs r').result = .ok result') : result = result' := by
  obtain ⟨records, hend, rfl⟩ := result_ofRun hr
  obtain ⟨records', hend', rfl⟩ := result_ofRun hr'
  have heq : records.map some = records'.map some := by
    rw [h.records_eq hend, h'.records_eq hend']
  rw [List.map_injective_iff.2 (fun _ _ => Option.some.inj) heq]

/-- A wait that is answered took its time, if its timer can run for so long. -/
theorem Engine.duration_of_wait {k : Nat} {x : Step (Provider σ)} {c : Call}
    {runner : Utility.Runner} {body : Utility.WaitRequest} (hx : plan.steps[k]? = some x)
    (hc : ((answers plan.steps).run s).1[k]? = some c)
    (hprovider : x.target.provider = Utility.provider runner) (hsave : x.operation = .save)
    (htype : x.request.resourceType = Utility.waitType)
    (hbody : x.request.read Utility.WaitRequest.shape = .ok body)
    (hlongest : body.milliseconds.toNat ≤ longestTimer) :
    c.duration = some body.milliseconds.toNat := by
  obtain ⟨x', s₁, hx', hinvoke⟩ := answers_getElem? hc
  obtain rfl : x' = x := Option.some.inj (hx'.symm.trans hx)
  unfold Step.invoke at hinvoke
  rw [hprovider, hsave, Utility.invoke_save_wait htype, Utility.wait_of_le hbody hlongest]
    at hinvoke
  obtain rfl := hinvoke
  rfl

/-- A token that goes off when no call of a timeline starts or ends stays apart from the run. -/
theorem Engine.Runs.apart_of_clear (h : Runs plan.steps token 0 s r s')
    (hquiet : ∀ c ∈ ((answers plan.steps).run s).1,
      c.result ≠ .error .cancelled ∧ c.trips = false)
    (hclear : token.Clear limit ((answers plan.steps).run s).1) : r.Apart token := by
  intro c hc
  obtain ⟨k, hk⟩ := List.getElem?_of_mem hc
  obtain ⟨hcall, t, ht, hstart⟩ := h.placed hk
  rw [Nat.zero_add] at hstart
  refine ⟨(hquiet _ (List.mem_of_getElem? hcall)).2, fun T hT => ⟨fun heq => ?_, fun heq => ?_⟩⟩
  · exact hclear.token k t ht (by rw [hT, ← heq, hstart])
  · obtain ⟨d, hd, rfl⟩ := Option.map_eq_some_iff.1 heq
    exact hclear.token (k + 1) (t + d) (Call.total_take_succ hcall ht hd) (by rw [hT, hstart])

/-- A run with a limit is punctual. -/
theorem Engine.Runs.punctual (h : Runs plan.steps token 0 s r s')
    (hquiet : ∀ c ∈ ((answers plan.steps).run s).1,
      c.result ≠ .error .cancelled ∧ c.trips = false)
    (hclear : token.Clear limit ((answers plan.steps).run s).1) :
    ((Deployment.ofRun token plan.outputs r).withinLimit limit).Punctual token limit plan
      ((answers plan.steps).run s).1
      (Deployment.ofRun .never plan.outputs ((run plan.steps .never 0).run s).1).result := by
  have hcs : ∀ c ∈ ((answers plan.steps).run s).1, c.result ≠ .error .cancelled :=
    fun c hc => (hquiet c hc).1
  have hlen := length_answers plan.steps s
  have hfault : ∀ f, (Deployment.ofRun token plan.outputs r).result = .error f → f = .cancelled :=
    fun f => error_of_ofRun
  have h₀ := hclear.isCancelledBy_zero
  have ho := h.obeys (h.apart_of_clear hquiet hclear)
  -- the deployment that nothing disturbs goes through the same timeline
  have hnever := runs_run plan.steps .never 0 s
  have hclear' : Cancellation.never.Clear none ((answers plan.steps).run s).1 :=
    { onClock := by simp, token := by simp, limit := by simp }
  have hundisturbed := hnever.obeys (hnever.apart_of_clear hquiet hclear')
  have htripped : r.tripped = false := h.tripped_eq_false fun c hc => by
    obtain ⟨k, hk⟩ := List.getElem?_of_mem hc
    exact (hquiet _ (List.mem_of_getElem? (h.placed hk).1)).2
  refine
    { waits := fun k x c runner body hx hc => duration_of_wait hx hc
      calls := ho.calls_withinLimit_iff hcs h₀ hlen hfault hclear.limit
      finished := fun S hS hby hlimit => ?_
      cancelled := fun T hT hlate hlimit => ?_
      timedOut := fun L hL hlate hby => ?_
      endless := fun htotal htoken hlimit => ?_ }
  · have hreached := reached_all hcs h₀ hS hby
    obtain ⟨hinstant, records, hresult, -⟩ := ho.result S hreached
    obtain ⟨result, hresult'⟩ := hundisturbed.finished.2
      ⟨S, reached_all hcs rfl hS rfl⟩
    rw [Deployment.withinLimit_of_le hinstant fun L hL => Nat.le_of_lt (hlimit L hL)]
    refine ⟨hinstant, ?_, result, hresult', ?_⟩
    · show (r.tripped || token.isCancelledBy (Deployment.ofRun token plan.outputs r).instant) =
        false
      rw [htripped, hinstant, hby]
      rfl
    · unfold Deployment.report
      rw [hresult, h.result_eq hnever hresult hresult']
      rfl
  · obtain ⟨hinstant, hresult⟩ := ho.instant_eq_of_after hcs h₀ hfault hT hlate
    rw [Deployment.withinLimit_of_le hinstant fun L hL => Nat.le_of_lt (hlimit L hL)]
    refine ⟨hinstant, ?_, ?_⟩
    · show (r.tripped || token.isCancelledBy (Deployment.ofRun token plan.outputs r).instant) = true
      rw [hinstant, hT, Bool.or_eq_true]
      exact .inr (decide_eq_true (Nat.le_refl T))
    · unfold Deployment.report
      rw [hresult]
      rfl
  · obtain rfl : limit = some L := hL
    have hgiven := Deployment.within_of_late (ho.lt_of_mem_instant hcs h₀ hfault hlate hby)
    show ((Deployment.ofRun token plan.outputs r).within L).instant = _ ∧ _
    unfold Deployment.withinLimit
    dsimp only
    rw [hgiven]
    exact ⟨rfl, rfl, rfl⟩
  · rw [hlimit]
    exact ho.instant_eq_none hcs h₀ hfault htotal htoken

end Limits

/-! ## Local deployments -/

section LocalDeployments

variable {σ : Type} {mode : Mode} {g : Registry (Provider σ)} {r : LocalRequest}
  {settings : DeploymentSettings} {template parameters : String} {token : Cancellation} {s s' : σ}
  {d : Deployment σ}

theorem LocalRequest.deploy_of_texts (ht : r.texts = .ok (template, parameters)) :
    (r.deploy settings g (Engine.deploy mode) token).run s =
      (((Engine.deploy mode g template parameters token).run s).1.withinLimit settings.timeout,
        ((Engine.deploy mode g template parameters token).run s).2) := by
  unfold LocalRequest.deploy
  rw [ht]
  rfl

/-- **Deadlines.** A local deployment ends at once with the fault of the first check that fails,
without a call; or all checks pass, and it is punctual if its calls leave the token alone and do not
end as cancelled of themselves, and nothing happens just when a call starts or ends. Its waits take
as long as they are told to, each of them that is told to take thirty years at most. -/
theorem deploy_punctual (ht : r.texts = .ok (template, parameters))
    (hd : (r.deploy settings g (Engine.deploy mode) token).run s = (d, s')) :
    (∃ f, FirstFault (structuralChecks g template parameters) f ∧ d.report = .error f ∧
      d.instant = some 0 ∧ d.calls = [] ∧ d.cancelled = token.isCancelledBy (some 0) ∧ s' = s) ∨
    ((∀ c ∈ structuralChecks g template parameters, c.Passes) ∧
      ∃ plan, (Plan.make mode template parameters g).1 = .ok plan ∧
        ((∀ c ∈ ((Engine.answers plan.steps).run s).1,
            c.result ≠ .error .cancelled ∧ c.trips = false) →
          token.Clear settings.timeout ((Engine.answers plan.steps).run s).1 →
          d.Punctual token settings.timeout plan ((Engine.answers plan.steps).run s).1
            ((Engine.deploy mode g template parameters .never).run s).1.result)) := by
  have hsettles := make_settles mode template parameters g
  obtain ⟨rfl, rfl⟩ := Prod.mk.inj ((LocalRequest.deploy_of_texts ht).symm.trans hd)
  cases hm : (Plan.make mode template parameters g).1 with
  | error f =>
    rw [Engine.deploy_of_error hm,
      Deployment.withinLimit_of_le (rfl : (Deployment.instantly token _).instant = some 0)
        fun L _ => Nat.zero_le _]
    exact .inl ⟨f, hsettles.firstFault hm, rfl, rfl, rfl, rfl, rfl⟩
  | ok plan =>
    refine .inr ⟨hsettles.passes hm, plan, rfl, fun hquiet hclear => ?_⟩
    rw [Engine.deploy_of_plan hm, Engine.deploy_of_plan hm]
    exact (Engine.runs_run plan.steps token 0 s).punctual hquiet hclear

end LocalDeployments

/-! ## Deployments of waits -/

/-- The registry of the utility provider, with a shell that runs nothing. -/
def utilities : Registry (Provider Unit) :=
  (∅ : Registry (Provider Unit)).register Utility.key fun _ =>
    Utility.provider (.fixed (.error .cancelled))

/-- A template of waits, each for some milliseconds. -/
def waiting (durations : List Nat) : String :=
  let wait (d : Nat × Nat) : String :=
    "\x7b\"name\":\"w" ++ toString d.2 ++ "\",\"import\":\"u\",\"type\":\"Wait\"," ++
      "\"properties\":\x7b\"durationMs\":" ++ toString d.1 ++ "\x7d\x7d"
  "\x7b\"imports\":\x7b\"u\":\x7b\"provider\":\"Utils\",\"version\":\"0.0.1\"\x7d\x7d," ++
    "\"resources\":[" ++ String.intercalate "," (durations.zipIdx.map wait) ++ "]\x7d"

/-- The request to deploy a template without parameters. -/
def LocalRequest.ofTemplate (template : String) : LocalRequest :=
  ⟨⟨"template.json", .ofText template⟩, none⟩

theorem LocalRequest.texts_ofTemplate (template : String) :
    (ofTemplate template).texts = .ok (template, "") := by
  unfold texts ofTemplate LocalDocument.text
  dsimp only
  rw [File.text_ofText]
  rfl

/-- Some waits, one after the other, by a limit in seconds. -/
def waitWithin (seconds : UInt64) (durations : List Nat) (token : Cancellation) :
    Deployment Unit :=
  (((LocalRequest.ofTemplate (waiting durations)).deploy ⟨some seconds⟩ utilities
    (Engine.deploy .normal) token).run ()).1

theorem waitWithin_eq (seconds : UInt64) (durations : List Nat) (token : Cancellation) :
    waitWithin seconds durations token =
      ((Engine.deploy .normal utilities (waiting durations) "" token).run ()).1.within
        (seconds.toNat * 1000) := by
  unfold waitWithin
  rw [LocalRequest.deploy_of_texts (LocalRequest.texts_ofTemplate _)]
  generalize (Engine.deploy _ _ _ _ _).run _ = x
  rfl

/-- When two calls start, and when they are over. -/
theorem Call.total_of_durations {cs : List Call} {a b : Nat}
    (h : cs.map Call.duration = [some a, some b]) : total cs = some (a + b) ∧
      ∀ k t, total (cs.take k) = some t → t = 0 ∨ t = a ∨ t = a + b := by
  obtain ⟨c, cs, rfl, hc, hcs⟩ := List.map_eq_cons_iff.1 h
  obtain ⟨c', cs, rfl, hc', hcs⟩ := List.map_eq_cons_iff.1 hcs
  obtain rfl := List.map_eq_nil_iff.1 hcs
  have htotal : total [c, c'] = some (a + b) := by simp [total, hc, hc']
  refine ⟨htotal, fun k t ht => ?_⟩
  rcases k with _ | _ | k
  · exact .inl (Option.some.inj ht).symm
  · exact .inr (.inl (by simpa [total, hc] using ht.symm))
  · exact .inr (.inr (by simpa [htotal] using ht.symm))

/-- Three seconds are over before two waits are, and before the token is cancelled. -/
theorem deploy_punctual_waiting :
    (waitWithin 3 [2000, 5000] (.after 4000)).report = .error (.timedOut 3000) ∧
      (waitWithin 3 [2000, 5000] (.after 4000)).instant = some 3000 ∧
      ∃ plan, (Plan.make .normal (waiting [2000, 5000]) "" utilities).1 = .ok plan ∧
        (waitWithin 3 [2000, 5000] (.after 4000)).Punctual (.after 4000) (some 3000) plan
          ((Engine.answers plan.steps).run ()).1
          ((Engine.deploy .normal utilities (waiting [2000, 5000]) "" .never).run ()).1.result := by
  have hplan : (match (Plan.make .normal (waiting [2000, 5000]) "" utilities).1 with
      | .error _ => false
      | .ok plan => ((Engine.answers plan.steps).run ()).1.map Call.duration ==
            [some 2000, some 5000] &&
          ((Engine.answers plan.steps).run ()).1.all fun c =>
            decide (c.result ≠ .error .cancelled ∧ c.trips = false)) = true := by
    decide +kernel
  rcases hd : ((LocalRequest.ofTemplate (waiting [2000, 5000])).deploy ⟨some 3⟩ utilities
    (Engine.deploy .normal) (.after 4000)).run () with ⟨d, s'⟩
  rw [waitWithin, hd]
  cases hm : (Plan.make .normal (waiting [2000, 5000]) "" utilities).1 with
  | error f =>
    rw [hm] at hplan
    cases hplan
  | ok plan =>
    rw [hm] at hplan
    obtain ⟨hdurations, hquiet⟩ := Bool.and_eq_true_iff.1 hplan
    rcases deploy_punctual (LocalRequest.texts_ofTemplate _) hd with
      ⟨f, hf, -⟩ | ⟨-, plan', hm', hpunctual⟩
    · obtain ⟨check, hc, hf⟩ := hf.exists_mem
      exact absurd hf ((make_settles _ _ _ _).passes hm check hc f)
    · obtain rfl : plan = plan' := Except.ok.inj (hm.symm.trans hm')
      obtain ⟨htotal, hstarts⟩ := Call.total_of_durations (eq_of_beq hdurations)
      have hp := hpunctual (by simpa using hquiet)
        { onClock := by simp
          token := fun k t ht => by rcases hstarts k t ht with rfl | rfl | rfl <;> simp
          limit := fun k t ht L hL => by
            obtain rfl : 3000 = L := Option.some.inj hL
            rcases hstarts k t ht with rfl | rfl | rfl <;> decide }
      have hlate : ∀ S ∈ Call.total ((Engine.answers plan.steps).run ()).1, 3000 < S := by
        rw [htotal]
        rintro S ⟨⟩
        decide
      obtain ⟨hinstant, -, hreport⟩ := hp.timedOut 3000 rfl hlate (by decide)
      exact ⟨hreport, hinstant, plan, rfl, hp⟩

/-- A wait of `2 * 10 ^ 12` milliseconds should outlast its limit of `10 ^ 12` milliseconds, and is
over before: the timer of a wait runs for thirty years at most. -/
theorem deploy_longestTimer :
    1000000000 * 1000 < 2000000000000 ∧
      (waitWithin 1000000000 [2000000000000] .never).instant = some longestTimer ∧
      (waitWithin 1000000000 [2000000000000] .never).report ≠
        .error (.timedOut (1000000000 * 1000)) := by
  have hwait : (waitWithin 1000000000 [2000000000000] .never).instant = some longestTimer ∧
      (waitWithin 1000000000 [2000000000000] .never).report.isOk = true := by
    rw [waitWithin_eq]
    decide +kernel
  obtain ⟨hinstant, hok⟩ := hwait
  refine ⟨by decide, hinstant, fun h => ?_⟩
  rw [h] at hok
  cases hok

end Provision
