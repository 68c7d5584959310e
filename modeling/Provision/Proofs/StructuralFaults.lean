import Provision.Proofs.Planning
import Provision.Proofs.Running

/-!
# Structural faults

A fault of the documents or of the registry stops a deployment before its first call, and it is the
fault of the first check that fails. Once all checks pass, the only fault left is cancellation.
-/

namespace Provision

variable {σ : Type}

/-- A run is finished or cancelled. -/
theorem error_of_ofRun {token : Cancellation} {outputs : Table DeploymentOutput} {r : Run σ}
    {f : DeployFault} (h : (Deployment.ofRun token outputs r).result = .error f) :
    f = .cancelled := by
  unfold Deployment.ofRun at h
  cases he : r.ending with
  | finished records => simp [he] at h
  | cancelled =>
    rw [he] at h
    exact (Except.error.inj h).symm

/-- **No deployment is left half-applied by a structural fault.** Either some check fails, and the
deployment ends with the fault of the first that does, without a call and with the world as it was,
whether or not its token is cancelled; or all checks pass, and it ends with a result or as
cancelled. -/
theorem deploy_structural (mode : Mode) (g : Registry (Provider σ)) (template parameters : String)
    (token : Cancellation) (s : σ) :
    (∃ f, FirstFault (structuralChecks g template parameters) f ∧
      ((Engine.deploy mode g template parameters token).run s).1.result = .error f ∧
      ((Engine.deploy mode g template parameters token).run s).1.calls = [] ∧
      ((Engine.deploy mode g template parameters token).run s).2 = s) ∨
    ((∀ c ∈ structuralChecks g template parameters, c.Passes) ∧
      ∀ f, ((Engine.deploy mode g template parameters token).run s).1.result = .error f →
        f = .cancelled) := by
  have hsettles := make_settles mode template parameters g
  cases hm : (Plan.make mode template parameters g).1 with
  | error f =>
    rw [Engine.deploy_of_error hm]
    exact .inl ⟨f, hsettles.firstFault hm, rfl, rfl, rfl⟩
  | ok plan =>
    rw [Engine.deploy_of_plan hm]
    exact .inr ⟨hsettles.passes hm, fun f hf => error_of_ofRun hf⟩

end Provision
