import Provision.Provider.Call
import Mathlib.Tactic.SplitIfs

/-!
# Calls on their own

A token catches work that goes on from one instant to another if it is cancelled beforehand or in
between, and it misses the work if it is cancelled afterwards or never. What a token does that is
cancelled just when the work is over is left open; every other one is `Apart` from the end of the
work, and catches the work or misses it. A call that heeds its token ends as cancelled when it is
caught, and every call that is missed ends of itself.
-/

namespace Provision

/-! ## Tokens and work -/

namespace Cancellation

/-- The token catches work that goes on from `start` to `stop?`, at an instant. -/
inductive Catches (token : Cancellation) (start : Nat) (stop? : Option Nat) : Nat → Prop
  /-- It was cancelled before, and the work takes time. -/
  | beforehand (h : token.holds start = true) (hs : stop? ≠ some start) :
    Catches token start stop? start
  /-- It is cancelled while the work goes on. -/
  | meanwhile {T : Nat} (h : token = .after T) (hs : start ≤ T) (hT : ∀ stop ∈ stop?, T < stop) :
    Catches token start stop? T

/-- The token leaves work alone that is over at `stop?`. -/
inductive Misses (token : Cancellation) (stop? : Option Nat) : Prop
  | never (h : token = .never)
  /-- It is cancelled when the work is over. -/
  | afterwards {T stop : Nat} (h : token = .after T) (hs : stop? = some stop) (hT : stop < T)

/-- The token is not cancelled just when the work is over, and if it was cancelled before, the work
takes time. -/
structure Apart (token : Cancellation) (start : Nat) (stop? : Option Nat) : Prop where
  stop : ∀ T, token = .after T → stop? ≠ some T
  start : token.holds start = true → stop? ≠ some start

variable {token : Cancellation} {start instant : Nat} {stop? : Option Nat}

/-- A token that is not cancelled just when the work is over catches the work or misses it. -/
theorem catches_or_misses (hle : ∀ stop ∈ stop?, start ≤ stop) (h : token.Apart start stop?) :
    (∃ instant, token.Catches start stop? instant) ∨ token.Misses stop? := by
  by_cases hh : token.holds start = true
  · exact .inl ⟨start, .beforehand hh (h.start hh)⟩
  cases token with
  | never => exact .inr (.never rfl)
  | already => exact absurd rfl hh
  | after T =>
    have hle' : start ≤ T := by simpa [holds] using hh
    cases stop? with
    | none => exact .inl ⟨T, .meanwhile rfl hle' fun _ h => nomatch h⟩
    | some stop =>
      have hne : stop ≠ T := fun he => h.stop T rfl (congrArg some he)
      rcases Nat.lt_or_gt_of_ne hne with hlt | hgt
      · exact .inr (.afterwards rfl rfl hlt)
      · refine .inl ⟨T, .meanwhile rfl hle' fun u hu => ?_⟩
        obtain rfl : stop = u := Option.some.inj hu
        exact hgt

theorem cuts_of_catches (hle : ∀ stop ∈ stop?, start ≤ stop)
    (h : token.Catches start stop? instant) : token.cuts start stop? = some instant := by
  cases h with
  | beforehand hh hs =>
    cases token with
    | never => cases hh
    | already => rfl
    | after T =>
      have hlt : T < start := by simpa [holds] using hh
      have hall : stop?.all (T < ·) = true := by
        cases stop? with
        | none => rfl
        | some stop => exact decide_eq_true (Nat.lt_of_lt_of_le hlt (hle stop rfl))
      rw [cuts, if_pos hall, Nat.max_eq_left (Nat.le_of_lt hlt)]
  | meanwhile hT hs hlt =>
    subst hT
    have hall : stop?.all (instant < ·) = true := by
      cases stop? with
      | none => rfl
      | some stop => exact decide_eq_true (hlt stop rfl)
    rw [cuts, if_pos hall, Nat.max_eq_right hs]

theorem cuts_of_misses (h : token.Misses stop?) : token.cuts start stop? = none := by
  cases h with
  | never h => rw [h, cuts]
  | @afterwards T stop h hs hT =>
    have hnot : ¬ T < stop := Nat.not_lt.2 (Nat.le_of_lt hT)
    rw [h, hs, cuts]
    simp [hnot]

end Cancellation

/-! ## Calls and tokens -/

namespace Call

variable {c : Call} {token : Cancellation} {start instant : Nat}

/-- Work is not over before it starts. -/
theorem start_le_of_mem_map {duration : Option Nat} :
    ∀ stop ∈ duration.map (start + ·), start ≤ stop := by
  intro stop h
  obtain ⟨d, -, rfl⟩ := Option.map_eq_some_iff.1 h
  exact Nat.le_add_right start d

/-- A call that heeds the token ends as cancelled when it is caught. -/
theorem ends_of_catches (hc : c.heeds = true) (h : token.Catches start (c.stop start) instant) :
    c.endsAt token start = some instant ∧ c.outcomeFrom token start = .error .cancelled := by
  have hcut : c.cutAt token start = some instant := by
    rw [cutAt, if_pos hc]
    exact Cancellation.cuts_of_catches start_le_of_mem_map h
  unfold endsAt outcomeFrom
  rw [hcut]
  exact ⟨rfl, rfl⟩

theorem ends_of_not_cut (h : c.cutAt token start = none) :
    c.endsAt token start = c.stop start ∧ c.outcomeFrom token start = c.result := by
  unfold endsAt outcomeFrom
  rw [h]
  exact ⟨rfl, rfl⟩

/-- A call that is missed ends of itself. -/
theorem ends_of_misses (h : token.Misses (c.stop start)) :
    c.endsAt token start = c.stop start ∧ c.outcomeFrom token start = c.result := by
  refine ends_of_not_cut ?_
  rw [cutAt, Cancellation.cuts_of_misses h, ite_self]

/-- A call that does not heed the token ends of itself. -/
theorem ends_of_deaf (hc : c.heeds = false) :
    c.endsAt token start = c.stop start ∧ c.outcomeFrom token start = c.result := by
  refine ends_of_not_cut ?_
  rw [cutAt, hc, if_neg Bool.false_ne_true]

/-- The call gives way to the token: its end and its outcome, if it takes until `stop?` and has a
result of its own. -/
structure Yields (c : Call) (token : Cancellation) (start : Nat) (stop? : Option Nat)
    (result : CallResult) : Prop where
  caught : ∀ T, token.Catches start stop? T →
    c.endsAt token start = some T ∧ c.outcomeFrom token start = .error .cancelled
  missed : token.Misses stop? →
    c.endsAt token start = stop? ∧ c.outcomeFrom token start = result
  /-- There is no third way, unless the token is cancelled just when the call is over. -/
  decided : token.Apart start stop? →
    (∃ T, token.Catches start stop? T) ∨ token.Misses stop?

theorem yields_of_heeds (hc : c.heeds = true) : c.Yields token start (c.stop start) c.result where
  caught _ := ends_of_catches hc
  missed := ends_of_misses
  decided := Cancellation.catches_or_misses start_le_of_mem_map

/-- However a call ends, it ends as cancelled or as it would of itself. -/
theorem outcomeFrom_cases (c : Call) (token : Cancellation) (start : Nat) :
    c.outcomeFrom token start = .error .cancelled ∨ c.outcomeFrom token start = c.result := by
  unfold outcomeFrom
  split_ifs
  · exact .inl rfl
  · exact .inr rfl

/-- The call is over as soon as it starts, whatever the token does, and has no effect. -/
structure AtOnce (c : Call) (result : CallResult) : Prop where
  effects : c.effects = []
  ends : ∀ token start, c.endsAt token start = some start
  outcome : ∀ token start, c.outcomeFrom token start = result

theorem atOnce_answer (result : CallResult) : (answer result).AtOnce result where
  effects := rfl
  ends _ _ := rfl
  outcome _ _ := rfl

end Call

end Provision
