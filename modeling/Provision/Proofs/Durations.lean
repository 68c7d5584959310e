import Provision.Proofs.Cancellation

/-!
# Durations

When no call of a timeline ends as cancelled, a place of it is reached at the sum of the durations
before it (`reached_iff`), unless the token is cancelled by then. So a run starts its calls at these
sums (`Runs.placed`), and what it records is told by the timeline alone (`Runs.records_eq`).
-/

namespace Provision

/-! ## Sums of durations -/

/-- How long some calls take one after the other; none if one of them never ends. -/
def Call.total : List Call → Option Nat
  | [] => some 0
  | c :: cs => c.duration.bind fun d => (total cs).map (d + ·)

section Sums

variable {token : Cancellation} {c : Call} {cs : List Call} {k l now start t u : Nat}

theorem Call.total_cons_eq_some : total (c :: cs) = some t ↔
    ∃ d u, c.duration = some d ∧ total cs = some u ∧ d + u = t := by
  simp [total, Option.bind_eq_some_iff]

/-- Fewer calls take no longer. -/
theorem Call.total_take_le (h : total cs = some t) (k : Nat) :
    ∃ u, total (cs.take k) = some u ∧ u ≤ t := by
  induction cs generalizing k t with
  | nil =>
    rw [List.take_nil]
    exact ⟨t, h, Nat.le_refl t⟩
  | cons c cs ih =>
    obtain ⟨d, v, hd, hv, rfl⟩ := total_cons_eq_some.1 h
    cases k with
    | zero => exact ⟨0, rfl, Nat.zero_le _⟩
    | succ k =>
      obtain ⟨u, hu, hle⟩ := ih hv k
      exact ⟨d + u, total_cons_eq_some.2 ⟨d, u, hd, hu, rfl⟩, Nat.add_le_add_left hle d⟩

theorem Call.total_take_mono (hkl : k ≤ l) (hk : total (cs.take k) = some t)
    (hl : total (cs.take l) = some u) : t ≤ u := by
  obtain ⟨v, hv, hle⟩ := total_take_le hl k
  rw [List.take_take, Nat.min_eq_left hkl, hk] at hv
  cases hv
  exact hle

theorem Call.total_take_succ {d : Nat} (hk : cs[k]? = some c) (ht : total (cs.take k) = some t)
    (hd : c.duration = some d) : total (cs.take (k + 1)) = some (t + d) := by
  induction cs generalizing k t with
  | nil => cases hk
  | cons c' cs ih =>
    cases k with
    | zero =>
      obtain rfl : c' = c := Option.some.inj hk
      obtain rfl : 0 = t := Option.some.inj ht
      exact total_cons_eq_some.2 ⟨d, 0, hd, rfl, Nat.add_comm d 0⟩
    | succ k =>
      obtain ⟨d', u, hd', hu, rfl⟩ := total_cons_eq_some.1 ht
      exact total_cons_eq_some.2 ⟨d', u + d, hd', ih hk hu, (Nat.add_assoc d' u d).symm⟩

/-- A token that is not cancelled at an instant is not cancelled before it. -/
theorem Cancellation.not_isCancelledBy_of_le (h : token.isCancelledBy (some u) = false)
    (hle : t ≤ u) : token.isCancelledBy (some t) = false := by
  cases token with
  | never => rfl
  | already => cases h
  | after T =>
    have hT : ¬ T ≤ u := of_decide_eq_false h
    exact decide_eq_false fun hTt => hT (Nat.le_trans hTt hle)

theorem Cancellation.isCancelledBy_after {T : Nat} :
    (Cancellation.after T).isCancelledBy (some t) = false ↔ t < T := by
  simp [isCancelledBy]

/-- If no call ends as cancelled, a place is reached when the calls before it have taken their time,
unless the token is cancelled by then. -/
theorem reached_iff (hcs : ∀ c ∈ cs, c.result ≠ .error .cancelled) (hk : k ≤ cs.length)
    (hnow : token.isCancelledBy (some now) = false) :
    Reached token cs now k start ↔ ∃ t, Call.total (cs.take k) = some t ∧ start = now + t ∧
      token.isCancelledBy (some start) = false := by
  induction k generalizing cs now with
  | zero =>
    constructor
    · rintro ⟨⟩
      exact ⟨0, rfl, rfl, hnow⟩
    · rintro ⟨t, ht, rfl, -⟩
      obtain rfl : 0 = t := Option.some.inj ht
      exact .first
  | succ k ih =>
    cases cs with
    | nil => cases hk
    | cons c cs =>
      have hk' : k ≤ cs.length := Nat.le_of_succ_le_succ hk
      have hcs' : ∀ c ∈ cs, c.result ≠ .error .cancelled := fun c hc =>
        hcs c (List.mem_cons_of_mem _ hc)
      constructor
      · rintro (_ | ⟨hp, hr⟩)
        obtain ⟨d, hd, rfl⟩ := Option.map_eq_some_iff.1 hp.ends
        obtain ⟨t, ht, rfl, hby⟩ := (ih hcs' hk' hp.inTime).1 hr
        exact ⟨d + t, Call.total_cons_eq_some.2 ⟨d, t, hd, ht, rfl⟩, Nat.add_assoc now d t, hby⟩
      · rintro ⟨t, ht, rfl, hby⟩
        obtain ⟨d, u, hd, hu, rfl⟩ := Call.total_cons_eq_some.1 ht
        have hstop : token.isCancelledBy (some (now + d)) = false :=
          Cancellation.not_isCancelledBy_of_le hby (by omega)
        have hp : c.Passes token now (now + d) :=
          ⟨by unfold Call.stop; rw [hd]; rfl, hstop, hcs c List.mem_cons_self⟩
        exact .next hp ((ih hcs' hk' hstop).2 ⟨u, hu, (Nat.add_assoc now d u).symm, hby⟩)

/-- All calls are reached when there is time for all of them. -/
theorem reached_all (hcs : ∀ c ∈ cs, c.result ≠ .error .cancelled)
    (h₀ : token.isCancelledBy (some 0) = false) (ht : Call.total cs = some t)
    (hby : token.isCancelledBy (some t) = false) : Reached token cs 0 cs.length t := by
  refine (reached_iff hcs (Nat.le_refl _) h₀).2 ⟨t, ?_, (Nat.zero_add t).symm, hby⟩
  rw [List.take_length]
  exact ht

end Sums

/-! ## Where runs are -/

namespace Engine

variable {σ : Type} {steps : List (Step (Provider σ))} {token : Cancellation} {now : Nat}
  {s s' : σ} {r : Run σ} {k : Nat} {c : StartedCall σ}

/-- The calls of a timeline are what the steps are answered, each in some world. -/
theorem answers_getElem? {call : Call} (h : ((answers steps).run s).1[k]? = some call) :
    ∃ x s₁, steps[k]? = some x ∧ (x.invoke.run s₁).1 = call := by
  induction steps generalizing s k with
  | nil =>
    have hnil : ([] : List Call)[k]? = some call := h
    rw [List.getElem?_nil] at hnil
    cases hnil
  | cons x rest ih =>
    rcases hi : x.invoke.run s with ⟨call', s'⟩
    rw [answers_cons hi] at h
    cases k with
    | zero =>
      obtain rfl : call' = call := Option.some.inj h
      exact ⟨x, s, rfl, by rw [hi]⟩
    | succ k => exact ih h

namespace Runs

/-- A call of a run is that of its timeline, and starts when those before it have taken their
time. -/
theorem placed (h : Runs steps token now s r s') (hk : r.calls[k]? = some c) :
    ((answers steps).run s).1[k]? = some c.call ∧
      ∃ t, Call.total (((answers steps).run s).1.take k) = some t ∧ c.start = now + t := by
  induction h generalizing k with
  | done => simp at hk
  | refused _ => simp at hk
  | cut _ hi _ =>
    obtain ⟨rfl, rfl⟩ := eq_of_getElem?_singleton hk
    rw [answers_cons hi]
    exact ⟨rfl, 0, rfl, rfl⟩
  | endless _ hi _ _ =>
    obtain ⟨rfl, rfl⟩ := eq_of_getElem?_singleton hk
    rw [answers_cons hi]
    exact ⟨rfl, 0, rfl, rfl⟩
  | withdrawn _ hi _ _ _ =>
    obtain ⟨rfl, rfl⟩ := eq_of_getElem?_singleton hk
    rw [answers_cons hi]
    exact ⟨rfl, 0, rfl, rfl⟩
  | @onward x rest token now stop s s' s'' call record r hh hi hg hs hr hrest ih =>
    rw [answers_cons hi]
    cases k with
    | zero =>
      obtain rfl : ⟨x, now, call⟩ = c := Option.some.inj hk
      exact ⟨rfl, 0, rfl, rfl⟩
    | succ k =>
      obtain ⟨hcall, t, ht, hstart⟩ := ih hk
      obtain ⟨d, hd, rfl⟩ := Option.map_eq_some_iff.1 hs
      refine ⟨hcall, d + t, Call.total_cons_eq_some.2 ⟨d, t, hd, ht, rfl⟩, ?_⟩
      rw [hstart, Nat.add_assoc]

/-- A run none of whose calls cancels the token leaves it alone. -/
theorem tripped_eq_false (h : Runs steps token now s r s')
    (hc : ∀ c ∈ r.calls, c.call.trips = false) : r.tripped = false := by
  induction h with
  | done => rfl
  | refused _ => rfl
  | cut _ _ _ => exact hc _ List.mem_cons_self
  | endless _ _ _ _ => exact hc _ List.mem_cons_self
  | withdrawn _ _ _ _ _ => exact hc _ List.mem_cons_self
  | @onward x rest _ now _ _ _ _ call _ r _ _ _ _ _ _ ih =>
    have hcall : call.trips = false := hc ⟨x, now, call⟩ List.mem_cons_self
    have hrest : r.tripped = false := ih fun c hm => hc c (List.mem_cons_of_mem _ hm)
    show (call.trips || r.tripped) = false
    rw [hcall, hrest]
    rfl

/-- The records of a run that carries out all steps are told by its timeline. -/
theorem records_eq {records : List OperationRecord} (h : Runs steps token now s r s')
    (hr : r.ending = .finished records) :
    records.map some =
      List.zipWith (fun x call => record? x.name call.result) steps ((answers steps).run s).1 := by
  induction h generalizing records with
  | done =>
    obtain rfl : [] = records := RunEnd.finished.inj hr
    rfl
  | refused _ => cases hr
  | cut _ _ _ => cases hr
  | endless _ _ _ _ => cases hr
  | withdrawn _ _ _ _ _ => cases hr
  | @onward x rest _ _ _ _ _ _ call record r _ hi _ _ hrec _ ih =>
    unfold Run.after at hr
    cases he : r.ending with
    | cancelled => simp [he] at hr
    | finished others =>
      obtain rfl : record :: others = records := by simpa [he] using hr
      rw [answers_cons hi, List.zipWith_cons_cons, List.map_cons, ih he, hrec]

end Runs

end Engine

end Provision
