import Provision.Proofs.Running
import Provision.Proofs.Entries
import Provision.Repository.Provider
import Provision.Utility.Provider

/-!
# What the bundled providers do

A dispatch table asks the handler of the resource type of a request, and refuses a request of any
other type. So what the bundled providers do with a request can be read off its type.
-/

namespace Provision

namespace DispatchTable

variable {σ : Type} {provider type : String} {operation : Operation} {handler : Handler σ}
  {t : DispatchTable σ} {r : OperationRequest}

theorem dispatch_new :
    (new operation : DispatchTable σ).dispatch provider r =
      Provider.refusing provider operation r := rfl

theorem dispatch_on : (t.on type handler).dispatch provider r =
    if r.resourceType = type then handler r else t.dispatch provider r := by
  unfold dispatch on
  dsimp only
  rw [Dictionary.get?_insert]
  split_ifs <;> rfl

end DispatchTable

namespace Utility

variable {σ : Type} {runner : Runner} {r : OperationRequest}

theorem invoke_save : (provider runner : Provider σ).invoke .save r =
    if r.resourceType = scriptType then pure (runScript runner r)
    else if r.resourceType = assertType then pure (assert r)
    else if r.resourceType = waitType then pure (wait r)
    else Provider.refusing key.name .save r := by
  show (saves runner).dispatch key.name r = _
  unfold saves
  rw [DispatchTable.dispatch_on, DispatchTable.dispatch_on, DispatchTable.dispatch_on,
    DispatchTable.dispatch_new]

theorem invoke_previewSave : (provider runner : Provider σ).invoke .previewSave r =
    if r.resourceType = assertType then pure (preview r)
    else if r.resourceType = waitType then pure (preview r)
    else Provider.refusing key.name .previewSave r := by
  show previews.dispatch key.name r = _
  unfold previews
  rw [DispatchTable.dispatch_on, DispatchTable.dispatch_on, DispatchTable.dispatch_new]

theorem invoke_save_wait (ht : r.resourceType = waitType) :
    (provider runner : Provider σ).invoke .save r = pure (wait r) := by
  have hs : waitType ≠ scriptType := by decide
  have ha : waitType ≠ assertType := by decide
  rw [invoke_save, ht, if_neg hs, if_neg ha, if_pos rfl]

theorem withProperties_of_ok {α : Type} {shape : Json.Shape α} {call : α → Call} {a : α}
    (h : r.read shape = .ok a) : withProperties shape r call = call a := by
  unfold withProperties properties
  rw [h]
  rfl

theorem withProperties_of_error {α : Type} {shape : Json.Shape α} {call : α → Call}
    {e : Json.ReadError} (h : r.read shape = .error e) :
    withProperties shape r call = .fault (.invalidProperties r.resourceType e.message) := by
  unfold withProperties properties
  rw [h]
  rfl

theorem wait_eq {body : WaitRequest} (hb : r.read WaitRequest.shape = .ok body) : wait r =
    ⟨some (min body.milliseconds.toNat longestTimer), plainSuccess r, true, false, []⟩ := by
  rw [wait, withProperties_of_ok hb]

theorem wait_of_le {body : WaitRequest} (hb : r.read WaitRequest.shape = .ok body)
    (hle : body.milliseconds.toNat ≤ longestTimer) :
    wait r = ⟨some body.milliseconds.toNat, plainSuccess r, true, false, []⟩ := by
  rw [wait_eq hb, Nat.min_eq_left hle]

/-- Nothing but saves and previews is offered. -/
theorem invoke_refused {o : Operation} (hsave : o ≠ .save) (hpreview : o ≠ .previewSave) :
    (provider runner : Provider σ).invoke o r = Provider.refusing key.name o r := by
  cases o with
  | save => exact absurd rfl hsave
  | previewSave => exact absurd rfl hpreview
  | get | delete => rfl

end Utility

namespace Repository

variable {σ : Type} {service : Service} {carry : Carrier σ} {r : OperationRequest}

theorem invoke_get : (provider service carry : Provider σ).invoke .get r =
    if r.resourceType = repositoryType then getRepository service carry r
    else Provider.refusing key.name .get r := by
  show (reads service carry).dispatch key.name r = _
  unfold reads
  rw [DispatchTable.dispatch_on, DispatchTable.dispatch_new]

/-- Nothing but reads is offered. -/
theorem invoke_refused {o : Operation} (hget : o ≠ .get) :
    (provider service carry : Provider σ).invoke o r = Provider.refusing key.name o r := by
  cases o with
  | get => exact absurd rfl hget
  | save | previewSave | delete => rfl

end Repository

end Provision
