import Provision.Proofs.Running

/-!
# Timelines

A timeline is the list of the calls that some steps would make, each in the world that the ones
before it leave. `Reached` says that the calls before a place of a timeline pass: they end of
themselves, in time and not as cancelled. There is one place at which no call passes
(`Stops.unique`), and there a run stops (`Runs.stops`); what becomes of the run is told by the call
at this place.

Nothing here depends on whether calls heed the token: a call that does not is given up all the same.
-/

namespace Provision

/-! ## Timelines -/

/-- The call ends of itself at `stop`, before the token is cancelled, and not as cancelled. -/
structure Call.Passes (c : Call) (token : Cancellation) (start stop : Nat) : Prop where
  ends : c.stop start = some stop
  inTime : token.isCancelledBy (some stop) = false
  result : c.result ≠ .error .cancelled

/-- The first `k` calls, made one after the other from `now` on, all pass; the last ends at
`start`. -/
inductive Reached (token : Cancellation) : List Call → Nat → Nat → Nat → Prop
  | first {cs : List Call} {now : Nat} : Reached token cs now 0 now
  | next {c : Call} {cs : List Call} {now stop k start : Nat} :
    c.Passes token now stop → Reached token cs stop k start →
      Reached token (c :: cs) now (k + 1) start

section Timelines

variable {token : Cancellation} {cs : List Call} {now k l start start' stop : Nat}

/-- The token is cancelled before the call at a place, or while it goes on. -/
def Interrupted (token : Cancellation) (cs : List Call) (now k : Nat) : Prop :=
  ∃ c start, cs[k]? = some c ∧ Reached token cs now k start ∧
    token.isCancelledBy (c.stop start) = true

/-- The call at a place ends as cancelled, while the token is not. -/
def Withdrawn (token : Cancellation) (cs : List Call) (now k stop : Nat) : Prop :=
  ∃ c start, cs[k]? = some c ∧ Reached token cs now k start ∧ c.stop start = some stop ∧
    token.isCancelledBy (some stop) = false ∧ c.result = .error .cancelled

/-- The call at a place never ends, and the token is never cancelled. -/
def Endless (token : Cancellation) (cs : List Call) (now k : Nat) : Prop :=
  ∃ c start, cs[k]? = some c ∧ Reached token cs now k start ∧ c.stop start = none ∧
    token.isCancelledBy none = false

/-- No call passes at the place that is reached. -/
structure Stops (token : Cancellation) (cs : List Call) (now k start : Nat) : Prop where
  reached : Reached token cs now k start
  notPassed : ∀ c, cs[k]? = some c → ∀ stop, ¬ c.Passes token start stop

theorem Reached.le_of_stops (h : Reached token cs now k start)
    (h' : Stops token cs now l start') : k ≤ l := by
  induction h generalizing l with
  | first => exact Nat.zero_le l
  | @next c cs now stop k start hc _ ih =>
    obtain ⟨hr, hn⟩ := h'
    cases hr with
    | first => exact absurd hc (hn c rfl stop)
    | next hc' hr' =>
      obtain rfl := Option.some.inj (hc.ends.symm.trans hc'.ends)
      exact Nat.succ_le_succ (ih ⟨hr', hn⟩)

theorem Reached.start_eq (h : Reached token cs now k start) (h' : Reached token cs now k start') :
    start = start' := by
  induction h with
  | first =>
    cases h'
    rfl
  | next hc _ ih =>
    cases h' with
    | next hc' hr' =>
      obtain rfl := Option.some.inj (hc.ends.symm.trans hc'.ends)
      exact ih hr'

theorem Reached.le_length (h : Reached token cs now k start) : k ≤ cs.length := by
  induction h with
  | first => exact Nat.zero_le _
  | next _ _ ih => exact Nat.succ_le_succ ih

/-- There is one place at which no call passes. -/
theorem Stops.unique (h : Stops token cs now k start) (h' : Stops token cs now l start') :
    k = l ∧ start = start' := by
  obtain rfl : k = l := Nat.le_antisymm (h.reached.le_of_stops h') (h'.reached.le_of_stops h)
  exact ⟨rfl, h.reached.start_eq h'.reached⟩

theorem Call.not_passes_of_isCancelledBy {c : Call}
    (hby : token.isCancelledBy (c.stop start) = true) (stop : Nat) :
    ¬ c.Passes token start stop := by
  intro hp
  rw [hp.ends, hp.inTime] at hby
  cases hby

theorem Call.not_passes_of_endless {c : Call} (hstop : c.stop start = none) (stop : Nat) :
    ¬ c.Passes token start stop := by
  intro hp
  rw [hp.ends] at hstop
  cases hstop

theorem Reached.stops {c : Call} (h : Reached token cs now k start) (hk : cs[k]? = some c)
    (hn : ∀ stop, ¬ c.Passes token start stop) : Stops token cs now k start := by
  refine ⟨h, fun c' hk' => ?_⟩
  obtain rfl := Option.some.inj (hk.symm.trans hk')
  exact hn

theorem Reached.stops_of_length (h : Reached token cs now cs.length start) :
    Stops token cs now cs.length start := by
  refine ⟨h, fun c hc => ?_⟩
  rw [List.getElem?_length] at hc
  cases hc

end Timelines

/-! ## The timeline of some steps -/

namespace Engine

variable {σ : Type}

/-- The calls that some steps would make one after the other. -/
def answers (steps : List (Step (Provider σ))) : StateM σ (List Call) := steps.mapM Step.invoke

theorem answers_cons {x : Step (Provider σ)} {rest : List (Step (Provider σ))} {s s' : σ}
    {call : Call} (hi : x.invoke.run s = (call, s')) :
    ((answers (x :: rest)).run s).1 = call :: ((answers rest).run s').1 := by
  have hi' : x.invoke s = (call, s') := hi
  unfold answers
  rw [List.mapM_cons]
  simp only [StateT.run, bind, StateT.bind, pure, hi']
  rfl

theorem length_answers (steps : List (Step (Provider σ))) (s : σ) :
    ((answers steps).run s).1.length = steps.length := by
  induction steps generalizing s with
  | nil => rfl
  | cons x rest ih =>
    rcases hi : x.invoke.run s with ⟨call, s'⟩
    rw [answers_cons hi, List.length_cons, List.length_cons, ih]

end Engine

/-! ## What the token does to a call -/

namespace Cancellation

variable {token : Cancellation} {start instant : Nat} {stop? : Option Nat}

/-- The token is cancelled at neither of the two instants at which a call starts and ends. -/
def Avoids (token : Cancellation) (start : Nat) (stop? : Option Nat) : Prop :=
  ∀ T, token = .after T → start ≠ T ∧ stop? ≠ some T

theorem le_of_holds {T : Nat} (hh : (after T).holds start = false) : start ≤ T := by
  simpa [holds] using hh

theorem isCancelledBy_start (hh : token.holds start = false) (ht : token.Avoids start stop?) :
    token.isCancelledBy (some start) = false := by
  cases token with
  | never => rfl
  | already => cases hh
  | after T =>
    obtain ⟨hne, -⟩ := ht T rfl
    have hlt : ¬ T ≤ start := by
      have := le_of_holds hh
      omega
    exact decide_eq_false hlt

/-- A call is given up at the instant at which the token is cancelled while it goes on. -/
theorem cuts_eq_some (hh : token.holds start = false) (h : token.cuts start stop? = some instant) :
    token = .after instant ∧ token.isCancelledBy stop? = true := by
  cases token with
  | never => cases h
  | already => cases hh
  | after T =>
    have hmax : max start T = T := Nat.max_eq_right (le_of_holds hh)
    cases stop? with
    | none =>
      obtain rfl : max start T = instant := Option.some.inj h
      rw [hmax]
      exact ⟨rfl, rfl⟩
    | some stop =>
      simp only [cuts, Option.all_some, decide_eq_true_eq] at h
      split_ifs at h with hlt
      obtain rfl : max start T = instant := Option.some.inj h
      rw [hmax]
      exact ⟨rfl, decide_eq_true (Nat.le_of_lt hlt)⟩

theorem cuts_eq_none (hh : token.holds start = false) (ht : token.Avoids start stop?)
    (h : token.cuts start stop? = none) : token.isCancelledBy stop? = false := by
  cases token with
  | never => rfl
  | already => cases hh
  | after T =>
    obtain ⟨-, hne⟩ := ht T rfl
    cases stop? with
    | none => cases h
    | some stop =>
      simp only [cuts, Option.all_some, decide_eq_true_eq] at h
      split_ifs at h with hlt
      have hle : ¬ T ≤ stop := by
        have : stop ≠ T := fun he => hne (congrArg some he)
        omega
      exact decide_eq_false hle

end Cancellation

namespace Engine

variable {token : Cancellation} {now instant stop : Nat} {call : Call}

theorem givesUpAt_of_trips (hq : call.trips = false) :
    givesUpAt call token now = token.cuts now (call.stop now) := by
  unfold givesUpAt
  rw [hq]
  rfl

theorem givenUp (hh : token.holds now = false) (hq : call.trips = false)
    (hg : givesUpAt call token now = some instant) :
    token = .after instant ∧ token.isCancelledBy (call.stop now) = true := by
  rw [givesUpAt_of_trips hq] at hg
  exact Cancellation.cuts_eq_some hh hg

theorem notGivenUp (hh : token.holds now = false) (hq : call.trips = false)
    (ht : token.Avoids now (call.stop now)) (hg : givesUpAt call token now = none) :
    token.isCancelledBy (call.stop now) = false := by
  rw [givesUpAt_of_trips hq] at hg
  exact Cancellation.cuts_eq_none hh ht hg

/-- A call after which a run goes on passes. -/
theorem passes_of_onward {name : String} {record : OperationRecord}
    (hh : token.holds now = false) (hq : call.trips = false)
    (ht : token.Avoids now (call.stop now)) (hg : givesUpAt call token now = none)
    (hs : call.stop now = some stop) (hr : record? name call.result = some record) :
    call.Passes token now stop := by
  have hby := notGivenUp hh hq ht hg
  rw [hs] at hby
  refine ⟨hs, hby, fun he => ?_⟩
  rw [record?_eq_none.2 he] at hr
  cases hr

end Engine

/-! ## Where runs stop -/

/-- How a run is over that stops at the place `k` of its timeline, which it reaches at `start`, by
the call at this place. -/
inductive Over {σ : Type} (token : Cancellation) (k start : Nat) (r : Run σ) : Option Call → Prop
  /-- There is no step left. -/
  | finished {records : List OperationRecord} : r.ending = .finished records →
    r.instant = some start → r.calls.length = k → Over token k start r none
  /-- The token was cancelled from the beginning. -/
  | refused {c : Call} : token = .already → r.ending = .cancelled → r.instant = some start →
    r.calls = [] → k = 0 → Over token k start r (some c)
  | interrupted {c : Call} {T : Nat} : token = .after T →
    token.isCancelledBy (c.stop start) = true → r.ending = .cancelled → r.instant = some T →
    r.calls.length = k + 1 → Over token k start r (some c)
  | withdrawn {c : Call} {stop : Nat} : c.stop start = some stop →
    token.isCancelledBy (some stop) = false → c.result = .error .cancelled →
    r.ending = .cancelled → r.instant = some stop → r.calls.length = k + 1 →
    Over token k start r (some c)
  | endless {c : Call} : c.stop start = none → token.isCancelledBy none = false →
    r.ending = .cancelled → r.instant = none → r.calls.length = k + 1 →
    Over token k start r (some c)

namespace Over

variable {σ : Type} {token : Cancellation} {cs : List Call} {k l now start start' stop : Nat}
  {r : Run σ}

theorem stops (h : Over token k start r cs[k]?) (hr : Reached token cs now k start) :
    Stops token cs now k start := by
  refine ⟨hr, fun c hk stop hp => ?_⟩
  rw [hk] at h
  cases h with
  | refused htoken _ _ _ _ =>
    subst htoken
    cases hp.inTime
  | interrupted _ hby _ _ _ => exact Call.not_passes_of_isCancelledBy hby stop hp
  | withdrawn _ _ hresult _ _ _ => exact hp.result hresult
  | endless hstop _ _ _ _ => exact Call.not_passes_of_endless hstop stop hp

/-- A run is over at the only place at which no call passes. -/
theorem at_stops (h : Over token k start r cs[k]?) (hr : Reached token cs now k start)
    (hl : Stops token cs now l start') : Over token l start' r cs[l]? := by
  obtain ⟨rfl, rfl⟩ := (h.stops hr).unique hl
  exact h

theorem of_interrupted (h : Over token k start r cs[k]?) (hr : Reached token cs now k start)
    (hl : Interrupted token cs now l) : r.ending = .cancelled ∧
      ((token = .already ∧ r.calls = [] ∧ r.instant = some now) ∨
        ∃ T, token = .after T ∧ r.instant = some T) := by
  obtain ⟨c, start', hk, hreach, hby⟩ := hl
  have hover := h.at_stops hr (hreach.stops hk (Call.not_passes_of_isCancelledBy hby))
  rw [hk] at hover
  cases hover with
  | refused htoken hend hinstant hcalls hzero =>
    subst hzero
    cases hreach
    exact ⟨hend, .inl ⟨htoken, hcalls, hinstant⟩⟩
  | interrupted htoken _ hend hinstant _ => exact ⟨hend, .inr ⟨_, htoken, hinstant⟩⟩
  | withdrawn hstop hnot _ _ _ _ => simp [hstop, hnot] at hby
  | endless hstop hnot _ _ _ => simp [hstop, hnot] at hby

theorem of_withdrawn (h : Over token k start r cs[k]?) (hr : Reached token cs now k start)
    (hl : Withdrawn token cs now l stop) : r.ending = .cancelled ∧ r.instant = some stop := by
  obtain ⟨c, start', hk, hreach, hstop, hby, hresult⟩ := hl
  have hover := h.at_stops hr (hreach.stops hk fun _ hp => hp.result hresult)
  rw [hk] at hover
  cases hover with
  | refused htoken _ _ _ _ =>
    subst htoken
    cases hby
  | interrupted _ hby' _ _ _ => simp [hstop, hby] at hby'
  | withdrawn hstop' _ _ hend hinstant _ =>
    obtain rfl := Option.some.inj (hstop.symm.trans hstop')
    exact ⟨hend, hinstant⟩
  | endless hstop' _ _ _ _ => simp [hstop] at hstop'

theorem of_endless (h : Over token k start r cs[k]?) (hr : Reached token cs now k start)
    (hl : Endless token cs now l) : r.instant = none := by
  obtain ⟨c, start', hk, hreach, hstop, hby⟩ := hl
  have hover := h.at_stops hr (hreach.stops hk (Call.not_passes_of_endless hstop))
  rw [hk] at hover
  cases hover with
  | refused htoken _ _ _ _ =>
    subst htoken
    cases hby
  | interrupted _ hby' _ _ _ => simp [hstop, hby] at hby'
  | withdrawn hstop' _ _ _ _ _ => simp [hstop] at hstop'
  | endless _ _ _ hinstant _ => exact hinstant

theorem of_all (h : Over token k start r cs[k]?) (hr : Reached token cs now k start)
    (hl : Reached token cs now cs.length start') :
    (∃ records, r.ending = .finished records) ∧ r.instant = some start' := by
  have hover := h.at_stops hr hl.stops_of_length
  rw [List.getElem?_length] at hover
  cases hover with
  | finished hend hinstant _ => exact ⟨⟨_, hend⟩, hinstant⟩

/-- Every step that is reached in time was started. -/
theorem lt_length (h : Over token k start r cs[k]?) (hr : Reached token cs now k start)
    (hl : l < cs.length) (hreach : Reached token cs now l start')
    (hby : token.isCancelledBy (some start') = false) : l < r.calls.length := by
  have hle : l ≤ k := hreach.le_of_stops (h.stops hr)
  generalize hk : cs[k]? = c? at h
  cases h with
  | finished _ _ hlen =>
    have : cs.length ≤ k := List.getElem?_eq_none_iff.1 hk
    omega
  | refused htoken _ _ _ _ =>
    subst htoken
    cases hby
  | interrupted _ _ _ _ hlen => omega
  | withdrawn _ _ _ _ _ hlen => omega
  | endless _ _ _ _ hlen => omega

/-- A call that passes comes before a run that is over. -/
theorem after {c? : Option Call} {x : Step (Provider σ)} {call : Call} {record : OperationRecord}
    (hc : call.Passes token now stop) (h : Over token k start r c?) :
    Over token (k + 1) start (r.after ⟨x, now, call⟩ (some record)) c? := by
  unfold Run.after
  cases h with
  | finished hend hinstant hlen =>
    exact .finished (by rw [hend]) hinstant (by simp only [List.length_cons, hlen])
  | refused htoken _ _ _ _ =>
    subst htoken
    cases hc.inTime
  | interrupted htoken hby hend hinstant hlen =>
    exact .interrupted htoken hby (by rw [hend]) hinstant (by simp only [List.length_cons, hlen])
  | withdrawn hstop hby hresult hend hinstant hlen =>
    exact .withdrawn hstop hby hresult (by rw [hend]) hinstant
      (by simp only [List.length_cons, hlen])
  | endless hstop hby hend hinstant hlen =>
    exact .endless hstop hby (by rw [hend]) hinstant (by simp only [List.length_cons, hlen])

end Over

/-! ## Runs on a timeline -/

/-- No call of a run cancels the token itself, or starts or ends just when it is cancelled. -/
def Run.Apart {σ : Type} (token : Cancellation) (r : Run σ) : Prop :=
  ∀ c ∈ r.calls, c.call.trips = false ∧ token.Avoids c.start (c.call.stop c.start)

theorem eq_of_getElem?_singleton {α : Type} {a b : α} {k : Nat} (h : [a][k]? = some b) :
    k = 0 ∧ b = a := by
  rw [List.getElem?_singleton] at h
  split_ifs at h with hk
  exact ⟨hk, (Option.some.inj h).symm⟩

namespace Engine.Runs

variable {σ : Type} {steps : List (Step (Provider σ))} {token : Cancellation} {now : Nat}
  {s s' : σ} {r : Run σ}

/-- A run stops at a place that it reaches. -/
theorem stops (h : Runs steps token now s r s') (ha : r.Apart token)
    (hnow : ∀ T, token = .after T → now ≤ T) :
    ∃ k start, Reached token ((answers steps).run s).1 now k start ∧
      Over token k start r ((answers steps).run s).1[k]? := by
  induction h with
  | done => exact ⟨0, _, .first, .finished rfl rfl rfl⟩
  | @refused x rest token now s hh =>
    rcases hi : x.invoke.run s with ⟨call, s'⟩
    rw [answers_cons hi]
    -- a cancellation at an instant is still to come, so this one was before the start
    have htoken : token = .already := by
      cases token with
      | never => cases hh
      | already => rfl
      | after T =>
        have hlt : T < now := by simpa [Cancellation.holds] using hh
        have := hnow T rfl
        omega
    exact ⟨0, _, .first, .refused htoken rfl rfl rfl rfl⟩
  | @cut x rest token now instant s s' call hh hi hg =>
    rw [answers_cons hi]
    obtain ⟨htoken, hby⟩ := givenUp hh (ha _ List.mem_cons_self).1 hg
    exact ⟨0, _, .first, .interrupted htoken hby rfl rfl rfl⟩
  | @endless x rest token now s s' call hh hi hg hs =>
    rw [answers_cons hi]
    obtain ⟨hq, ht⟩ := ha _ List.mem_cons_self
    have hby := notGivenUp hh hq ht hg
    rw [hs] at hby
    exact ⟨0, _, .first, .endless hs hby rfl rfl rfl⟩
  | @withdrawn x rest token now stop s s' call hh hi hg hs hr =>
    rw [answers_cons hi]
    obtain ⟨hq, ht⟩ := ha _ List.mem_cons_self
    have hby := notGivenUp hh hq ht hg
    rw [hs] at hby
    exact ⟨0, _, .first, .withdrawn hs hby (record?_eq_none.1 hr) rfl rfl rfl⟩
  | @onward x rest token now stop s s' s'' call record r hh hi hg hs hr hrest ih =>
    rw [answers_cons hi]
    obtain ⟨hq, ht⟩ := ha ⟨x, now, call⟩ List.mem_cons_self
    have hrest' : r.Apart token := fun c hc => ha c (List.mem_cons_of_mem _ hc)
    dsimp only at hq ht
    have hpasses := passes_of_onward hh hq ht hg hs hr
    -- the token is the same for the others, and not cancelled when they start
    rw [hq, if_neg Bool.false_ne_true] at ih
    have hstop : ∀ T, token = .after T → stop ≤ T := by
      rintro T rfl
      have : ¬ T ≤ stop := of_decide_eq_false hpasses.inTime
      omega
    obtain ⟨k, start, hreach, hover⟩ := ih hrest' hstop
    exact ⟨k + 1, start, .next hpasses hreach, hover.after hpasses⟩

/-- A call of a run is that of its timeline, and is started at the instant at which it is reached,
while the token is not cancelled. -/
theorem started (h : Runs steps token now s r s') (ha : r.Apart token) {k : Nat}
    {c : StartedCall σ} (hk : r.calls[k]? = some c) :
    steps[k]? = some c.step ∧ ((answers steps).run s).1[k]? = some c.call ∧
      Reached token ((answers steps).run s).1 now k c.start ∧
      token.isCancelledBy (some c.start) = false := by
  induction h generalizing k with
  | done => simp at hk
  | refused _ => simp at hk
  | cut hh hi _ =>
    obtain ⟨rfl, rfl⟩ := eq_of_getElem?_singleton hk
    rw [answers_cons hi]
    exact ⟨rfl, rfl, .first, Cancellation.isCancelledBy_start hh (ha _ List.mem_cons_self).2⟩
  | endless hh hi _ _ =>
    obtain ⟨rfl, rfl⟩ := eq_of_getElem?_singleton hk
    rw [answers_cons hi]
    exact ⟨rfl, rfl, .first, Cancellation.isCancelledBy_start hh (ha _ List.mem_cons_self).2⟩
  | withdrawn hh hi _ _ _ =>
    obtain ⟨rfl, rfl⟩ := eq_of_getElem?_singleton hk
    rw [answers_cons hi]
    exact ⟨rfl, rfl, .first, Cancellation.isCancelledBy_start hh (ha _ List.mem_cons_self).2⟩
  | @onward x rest token now stop s s' s'' call record r hh hi hg hs hr hrest ih =>
    obtain ⟨hq, ht⟩ := ha ⟨x, now, call⟩ List.mem_cons_self
    rw [answers_cons hi]
    cases k with
    | zero =>
      obtain rfl : ⟨x, now, call⟩ = c := Option.some.inj hk
      exact ⟨rfl, rfl, .first, Cancellation.isCancelledBy_start hh ht⟩
    | succ k =>
      dsimp only at hq ht
      rw [hq, if_neg Bool.false_ne_true] at ih
      obtain ⟨hstep, hcall, hreach, hby⟩ := ih (fun c hc => ha c (List.mem_cons_of_mem _ hc)) hk
      exact ⟨hstep, hcall, .next (passes_of_onward hh hq ht hg hs hr) hreach, hby⟩

end Engine.Runs

end Provision
