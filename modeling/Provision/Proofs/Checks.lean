import Provision.Deployment.Fault
import Mathlib.Data.List.Basic

/-!
# Checks in order

A check tells with which faults it fails; it passes if there is none. `FirstFault checks f` says
that the first check of a list that fails may fail with `f`. `Settles` says that a computation
reports exactly what a list of checks says: it refuses with the fault of the first that fails, and
does not refuse if all pass. The rules below follow the ways in which computations are put together.
-/

namespace Provision

/-- A check, by the faults with which it fails. -/
abbrev Check := DeployFault → Prop

/-- The check does not fail. -/
def Check.Passes (c : Check) : Prop := ∀ f, ¬ c f

/-- The fault of the first check that fails. -/
inductive FirstFault : List Check → DeployFault → Prop
  | here {c : Check} {cs : List Check} {f : DeployFault} : c f → FirstFault (c :: cs) f
  | later {c : Check} {cs : List Check} {f : DeployFault} :
    c.Passes → FirstFault cs f → FirstFault (c :: cs) f

namespace FirstFault

variable {cs ds : List Check} {f : DeployFault}

theorem append_right (h : FirstFault cs f) : FirstFault (cs ++ ds) f := by
  induction h with
  | here hc => exact .here hc
  | later hp _ ih => exact .later hp ih

theorem append_left (hp : ∀ c ∈ cs, c.Passes) (h : FirstFault ds f) : FirstFault (cs ++ ds) f := by
  induction cs with
  | nil => exact h
  | cons c cs ih =>
    exact .later (hp c List.mem_cons_self) (ih fun c hc => hp c (List.mem_cons_of_mem _ hc))

theorem of_append (h : FirstFault (cs ++ ds) f) : FirstFault cs f ∨ FirstFault ds f := by
  induction cs with
  | nil => exact .inr h
  | cons c cs ih =>
    cases h with
    | here hc => exact .inl (.here hc)
    | later hp h => exact (ih h).imp_left (.later hp)

/-- A list in which a check fails does not pass. -/
theorem exists_mem (h : FirstFault cs f) : ∃ c ∈ cs, c f := by
  induction h with
  | here hc => exact ⟨_, List.mem_cons_self, hc⟩
  | later _ _ ih =>
    obtain ⟨c, hm, hc⟩ := ih
    exact ⟨c, List.mem_cons_of_mem _ hm, hc⟩

theorem exists_of_flatMap {α : Type} {check : α → List Check} :
    ∀ {l : List α}, FirstFault (l.flatMap check) f → ∃ a ∈ l, FirstFault (check a) f
  | [], h => nomatch h
  | a :: l, h => by
    rw [List.flatMap_cons] at h
    rcases of_append h with ha | hl
    · exact ⟨a, List.mem_cons_self, ha⟩
    · obtain ⟨b, hb, hf⟩ := exists_of_flatMap hl
      exact ⟨b, List.mem_cons_of_mem _ hb, hf⟩

end FirstFault

/-- The computation reports what the checks say; its own faults stand for those that `wrap` makes
of them. -/
def Settles {ε α : Type} (wrap : ε → DeployFault) (cs : List Check) (r : Except ε α) : Prop :=
  match r with
  | .ok _ => ∀ c ∈ cs, c.Passes
  | .error f => FirstFault cs (wrap f)

namespace Settles

variable {ε α β : Type} {wrap : ε → DeployFault} {cs ds : List Check}

theorem ok {a : α} : Settles wrap [] (.ok a : Except ε α) := by
  intro c hc
  simp at hc

theorem check_ok {c : Check} {a : α} (h : c.Passes) : Settles wrap [c] (.ok a : Except ε α) := by
  intro d hd
  rwa [List.mem_singleton.1 hd]

theorem check_error {c : Check} {f : ε} (h : c (wrap f)) :
    Settles wrap [c] (.error f : Except ε α) := .here h

/-- Checks that pass may be put in front. -/
theorem after {r : Except ε α} (hp : ∀ c ∈ cs, c.Passes) (h : Settles wrap ds r) :
    Settles wrap (cs ++ ds) r := by
  cases r with
  | error f => exact FirstFault.append_left hp h
  | ok a =>
    intro c hc
    rcases List.mem_append.1 hc with hc | hc
    · exact hp c hc
    · exact h c hc

theorem mapError {r : Except ε α} (h : Settles wrap cs r) : Settles id cs (r.mapError wrap) := by
  cases r with
  | ok a => exact h
  | error f => exact h

theorem map {r : Except ε α} (g : α → β) (h : Settles wrap cs r) : Settles wrap cs (r.map g) := by
  cases r with
  | ok a => exact h
  | error f => exact h

/-- What comes next is checked next. -/
theorem bind {r : Except ε α} {k : α → Except ε β} (h : Settles wrap cs r)
    (hk : ∀ a, r = .ok a → Settles wrap ds (k a)) : Settles wrap (cs ++ ds) (r >>= k) := by
  cases r with
  | error f => exact FirstFault.append_right h
  | ok a => exact after h (hk a rfl)

/-- A traversal meets the checks of its items in order. -/
theorem mapM {f : α → Except ε β} {check : α → List Check} :
    ∀ {l : List α}, (∀ a ∈ l, Settles wrap (check a) (f a)) →
      Settles wrap (l.flatMap check) (l.mapM f)
  | [], _ => ok
  | a :: l, h => by
    rw [List.mapM_cons, List.flatMap_cons]
    refine bind (h a List.mem_cons_self) fun b _ => ?_
    have hl := mapM (l := l) fun a ha => h a (List.mem_cons_of_mem _ ha)
    rw [← List.append_nil (l.flatMap check)]
    exact bind hl fun bs _ => ok

/-- Checks whose order does not matter, taken as one. -/
theorem gather {l : List α} {check : α → List Check} {r : Except ε β}
    (h : Settles wrap (l.flatMap check) r) :
    Settles wrap [fun f => ∃ a ∈ l, FirstFault (check a) f] r := by
  cases r with
  | error f => exact .here (FirstFault.exists_of_flatMap h)
  | ok b =>
    refine check_ok fun f hf => ?_
    obtain ⟨a, ha, hf⟩ := hf
    obtain ⟨c, hc, hf⟩ := hf.exists_mem
    exact h c (List.mem_flatMap.2 ⟨a, ha, hc⟩) f hf

theorem passes {r : Except ε α} {a : α} (h : Settles wrap cs r) (hr : r = .ok a) :
    ∀ c ∈ cs, c.Passes := by
  subst hr
  exact h

theorem firstFault {r : Except ε α} {f : ε} (h : Settles wrap cs r) (hr : r = .error f) :
    FirstFault cs (wrap f) := by
  subst hr
  exact h

/-- A computation whose checks all pass does not refuse. -/
theorem exists_ok {r : Except ε α} (h : Settles wrap cs r) (hp : ∀ c ∈ cs, c.Passes) :
    ∃ a, r = .ok a := by
  cases r with
  | ok a => exact ⟨a, rfl⟩
  | error f =>
    obtain ⟨c, hc, hf⟩ := FirstFault.exists_mem h
    exact absurd hf (hp c hc _)

end Settles

end Provision
