import Provision.Deployment.Engine
import Mathlib.Data.List.Forall2

/-!
# Runs of the engine

`Engine.Runs steps token now s r s'` lists the ways in which a run of some steps from an instant and
a world can go; a run of the engine goes in one of them (`runs_run`), and everything that is said of
runs is proved by induction on it.
-/

namespace Provision

variable {σ : Type}

/-- What a step asks of its provider. -/
def Step.invoke (x : Step (Provider σ)) : StateM σ Call :=
  x.target.provider.invoke x.operation x.request

/-- The calls were made in this order, each in the world that the one before left. -/
inductive Invoked : σ → List (StartedCall σ) → σ → Prop
  | nil {s : σ} : Invoked s [] s
  | cons {s s' s'' : σ} {c : StartedCall σ} {cs : List (StartedCall σ)} :
    c.step.invoke.run s = (c.call, s') → Invoked s' cs s'' → Invoked s (c :: cs) s''

namespace Engine

/-- How a run of some steps can go, from an instant and a world. -/
inductive Runs : List (Step (Provider σ)) → Cancellation → Nat → σ → Run σ → σ → Prop
  /-- There is nothing to do. -/
  | done {token : Cancellation} {now : Nat} {s : σ} :
    Runs [] token now s ⟨[], .finished [], some now, false⟩ s
  /-- The token is cancelled before the call. -/
  | refused {x : Step (Provider σ)} {rest : List (Step (Provider σ))} {token : Cancellation}
    {now : Nat} {s : σ} :
    token.holds now = true → Runs (x :: rest) token now s ⟨[], .cancelled, some now, false⟩ s
  /-- The call is given up. -/
  | cut {x : Step (Provider σ)} {rest : List (Step (Provider σ))} {token : Cancellation}
    {now instant : Nat} {s s' : σ} {call : Call} :
    token.holds now = false → x.invoke.run s = (call, s') →
    givesUpAt call token now = some instant →
    Runs (x :: rest) token now s ⟨[⟨x, now, call⟩], .cancelled, some instant, call.trips⟩ s'
  /-- The call never ends. -/
  | endless {x : Step (Provider σ)} {rest : List (Step (Provider σ))} {token : Cancellation}
    {now : Nat} {s s' : σ} {call : Call} :
    token.holds now = false → x.invoke.run s = (call, s') →
    givesUpAt call token now = none → call.stop now = none →
    Runs (x :: rest) token now s ⟨[⟨x, now, call⟩], .cancelled, none, call.trips⟩ s'
  /-- The call ends as cancelled. -/
  | withdrawn {x : Step (Provider σ)} {rest : List (Step (Provider σ))} {token : Cancellation}
    {now stop : Nat} {s s' : σ} {call : Call} :
    token.holds now = false → x.invoke.run s = (call, s') →
    givesUpAt call token now = none → call.stop now = some stop →
    record? x.name call.result = none →
    Runs (x :: rest) token now s ⟨[⟨x, now, call⟩], .cancelled, some stop, call.trips⟩ s'
  /-- The call is recorded, and the run goes on. -/
  | onward {x : Step (Provider σ)} {rest : List (Step (Provider σ))} {token : Cancellation}
    {now stop : Nat} {s s' s'' : σ} {call : Call} {record : OperationRecord} {r : Run σ} :
    token.holds now = false → x.invoke.run s = (call, s') →
    givesUpAt call token now = none → call.stop now = some stop →
    record? x.name call.result = some record →
    Runs rest (if call.trips then .already else token) stop s' r s'' →
    Runs (x :: rest) token now s (r.after ⟨x, now, call⟩ (some record)) s''

theorem run_of_holds {x : Step (Provider σ)} {rest : List (Step (Provider σ))}
    {token : Cancellation} {now : Nat} {s : σ} (hh : token.holds now = true) :
    (run (x :: rest) token now).run s = (⟨[], .cancelled, some now, false⟩, s) := by
  unfold run
  rw [if_pos hh]
  rfl

/-- How a step goes whose call was made: the run of the others follows if it is recorded. -/
theorem run_of_invoke {x : Step (Provider σ)} {rest : List (Step (Provider σ))}
    {token : Cancellation} {now : Nat} {s s' : σ} {call : Call} (hh : token.holds now = false)
    (hi : x.invoke.run s = (call, s')) :
    (run (x :: rest) token now).run s =
      match givesUpAt call token now, call.stop now, record? x.name call.result with
      | some instant, _, _ => (⟨[⟨x, now, call⟩], .cancelled, some instant, call.trips⟩, s')
      | none, none, _ => (⟨[⟨x, now, call⟩], .cancelled, none, call.trips⟩, s')
      | none, some stop, none => (⟨[⟨x, now, call⟩], .cancelled, some stop, call.trips⟩, s')
      | none, some stop, some record =>
        (((run rest (if call.trips then .already else token) stop).run s').1.after
            ⟨x, now, call⟩ (some record),
          ((run rest (if call.trips then .already else token) stop).run s').2) := by
  have hi' : x.target.provider.invoke x.operation x.request s = (call, s') := hi
  rw [run, if_neg (by simp [hh])]
  simp only [StateT.run, bind, StateT.bind, pure, hi']
  rcases givesUpAt call token now with _ | _ <;> rcases call.stop now with _ | _ <;>
    rcases record? x.name call.result with _ | _ <;> rfl

/-- A run of the engine goes in one of these ways. -/
theorem runs_run : ∀ (steps : List (Step (Provider σ))) (token : Cancellation) (now : Nat) (s : σ),
    Runs steps token now s ((run steps token now).run s).1 ((run steps token now).run s).2
  | [], token, now, s => .done
  | x :: rest, token, now, s => by
    cases hh : token.holds now with
    | true =>
      rw [run_of_holds hh]
      exact .refused hh
    | false =>
      rcases hi : x.invoke.run s with ⟨call, s'⟩
      rw [run_of_invoke hh hi]
      cases hg : givesUpAt call token now with
      | some instant => exact .cut hh hi hg
      | none =>
        cases hs : call.stop now with
        | none => exact .endless hh hi hg hs
        | some stop =>
          cases hr : record? x.name call.result with
          | none => exact .withdrawn hh hi hg hs hr
          | some record => exact .onward hh hi hg hs hr (runs_run rest _ stop s')

/-- An operation has no record only if it was cancelled. -/
theorem record?_eq_none {name : String} {result : CallResult} :
    record? name result = none ↔ result = .error .cancelled := by
  rcases result with (_ | _ | _ | _ | _ | _) | (_ | _) <;> simp [record?]

namespace Runs

variable {steps : List (Step (Provider σ))} {token : Cancellation} {now : Nat} {s s' : σ}
  {r : Run σ}

/-- The calls of a run are the only ones that are made. -/
theorem invoked (h : Runs steps token now s r s') : Invoked s r.calls s' := by
  induction h with
  | done => exact .nil
  | refused _ => exact .nil
  | cut _ hi _ => exact .cons hi .nil
  | endless _ hi _ _ => exact .cons hi .nil
  | withdrawn _ hi _ _ _ => exact .cons hi .nil
  | onward _ hi _ _ _ _ ih => exact .cons hi ih

/-- The calls of a run are those of the first steps, in order. -/
theorem steps_eq (h : Runs steps token now s r s') :
    ∃ later, steps = r.calls.map StartedCall.step ++ later := by
  induction h with
  | done => exact ⟨[], rfl⟩
  | refused _ => exact ⟨_, rfl⟩
  | cut _ _ _ => exact ⟨_, rfl⟩
  | endless _ _ _ _ => exact ⟨_, rfl⟩
  | withdrawn _ _ _ _ _ => exact ⟨_, rfl⟩
  | onward _ _ _ _ _ _ ih =>
    obtain ⟨later, rfl⟩ := ih
    exact ⟨later, rfl⟩

/-- A run that carries out all steps has one call and one record for each of them, in order. -/
theorem finished {records : List OperationRecord} (h : Runs steps token now s r s')
    (hr : r.ending = .finished records) :
    r.calls.map StartedCall.step = steps ∧
      List.Forall₂ (fun c record => record? c.step.name c.call.result = some record)
        r.calls records := by
  induction h generalizing records with
  | done =>
    obtain rfl : [] = records := RunEnd.finished.inj hr
    exact ⟨rfl, .nil⟩
  | refused _ => cases hr
  | cut _ _ _ => cases hr
  | endless _ _ _ _ => cases hr
  | withdrawn _ _ _ _ _ => cases hr
  | @onward x rest _ _ _ _ _ _ call record r _ _ _ _ hrec _ ih =>
    unfold Run.after at hr ⊢
    cases he : r.ending with
    | cancelled => simp [he] at hr
    | finished others =>
      obtain rfl : record :: others = records := by simpa [he] using hr
      obtain ⟨hsteps, hall⟩ := ih he
      exact ⟨by rw [List.map_cons, hsteps], .cons hrec hall⟩

end Runs

/-! ## Deployments -/

section Deployments

variable {mode : Mode} {g : Registry (Provider σ)} {template parameters : String}
  {token : Cancellation}

theorem deploy_of_error {f : DeployFault}
    (h : (Plan.make mode template parameters g).1 = .error f) (s : σ) :
    (deploy mode g template parameters token).run s = (.instantly token (.error f), s) := by
  unfold deploy
  rw [h]
  rfl

theorem deploy_of_plan {plan : Plan (Provider σ)}
    (h : (Plan.make mode template parameters g).1 = .ok plan) (s : σ) :
    (deploy mode g template parameters token).run s =
      (.ofRun token plan.outputs ((run plan.steps token 0).run s).1,
        ((run plan.steps token 0).run s).2) := by
  unfold deploy
  rw [h]
  rfl

end Deployments

end Engine

end Provision
