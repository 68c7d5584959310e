import Provision.Deployment.Reporting
import Provision.Settings

/-!
# Local deployments

A local deployment reads its documents from files, has them carried out by an orchestrator, and
waits no longer than the settings allow. A deployment that ends at the very instant of the limit is
in time; one that goes on longer is given up, and its token cancelled.
-/

namespace Provision

namespace Deployment

/-- The deployment for somebody who waits until `limit`. -/
def within (limit : Nat) (d : Deployment σ) : Deployment σ :=
  if d.instant.any (· ≤ limit) then d
  else ⟨.error (.timedOut limit), d.calls.filter (·.start ≤ limit), some limit, true⟩

/-- The deployment for somebody who waits until a limit, if there is one. -/
def withinLimit (limit : Option Nat) (d : Deployment σ) : Deployment σ :=
  match limit with
  | none => d
  | some limit => d.within limit

theorem within_of_le {d : Deployment σ} {limit instant : Nat} (h : d.instant = some instant)
    (le : instant ≤ limit) : d.within limit = d := by
  simp [within, h, le]

/-- What the caller is told. -/
def report (d : Deployment σ) : Except DeployFault Report := d.result.map DeploymentResult.report

/-- The messages that were sent, in order. -/
def messages (d : Deployment σ) : List Message :=
  d.calls.flatMap fun c => c.call.effects.filterMap fun
    | .exchange m => some m
    | .script _ => none

/-- The scripts that were handed to the shell, in order. -/
def scripts (d : Deployment σ) : List String :=
  d.calls.flatMap fun c => c.call.effects.filterMap fun
    | .script s => some s
    | .exchange _ => none

end Deployment

/-- A document and where it is. -/
structure LocalDocument where
  path : String
  file : File

/-- The text of a document. -/
def LocalDocument.text (d : LocalDocument) : Except DeployFault String :=
  d.file.text.mapError (.readDocument d.path)

/-- What is to be deployed; without a document of parameters none are supplied. -/
structure LocalRequest where
  template : LocalDocument
  parameters : Option LocalDocument

namespace LocalRequest

/-- The texts of the template and of the parameters; the template is read first. -/
def texts (r : LocalRequest) : Except DeployFault (String × String) := do
  let template ← r.template.text
  let parameters ←
    match r.parameters with
    | none => .ok ""
    | some d => d.text
  .ok (template, parameters)

/-- Carries out a request with the providers of a registry. -/
def deploy (r : LocalRequest) (s : DeploymentSettings) (g : Registry (Provider σ))
    (orchestrate : Orchestrator σ) (token : Cancellation) : StateM σ (Deployment σ) :=
  match r.texts with
  | .error f => pure (.instantly token (.error f))
  | .ok (template, parameters) => do
    let d ← orchestrate g template parameters token
    pure (d.withinLimit s.timeout)

end LocalRequest

end Provision
