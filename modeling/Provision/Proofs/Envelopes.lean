import Provision.Deployment.Reporting
import Provision.Proofs.Decoding

/-!
# Reports of envelopes

Engines may put any Json into an envelope. Whatever it is, a report says of it one of three things:
that there is no error, the error that is there, or that there is one which cannot be understood.
`Envelope.Carries` and `Envelope.Idle` sort the envelopes, `Envelope.Describes` tells what an
error is, in the words of the format and not of the decoder, and `Envelope.Reported` says what
follows for the report. All else of a result stands in its report as it is: the operations in their
order, the states, and the outputs without their types (`DeploymentResult.Renders`).
-/

namespace Provision

open Json

namespace Envelope

/-! ## Errors in Json -/

/-- The members of that name: one with that value, or none. -/
def Sole (name : String) (ms : List (String × Json)) : Option Json → Prop
  | none => ms.filter (·.1 = name) = []
  | some j => ms.filter (·.1 = name) = [(name, j)]

/-- A text that may be null or absent, which counts as empty. -/
def ReadsAs : Option Json → String → Prop
  | none, t | some .null, t => t = ""
  | some j, t => j = .string t

/-- The Json value is this error: an object with a code, and perhaps a message and a target, or an
array of these in order. -/
def Describes : Json → OperationError → Prop
  | .object ms, e =>
    Sole "code" ms (some (.string e.code)) ∧
      (∃ message, Sole "message" ms message ∧ ReadsAs message e.message) ∧
      ∃ target, Sole "target" ms target ∧ ReadsAs target e.target
  | .array items, e =>
    items.length ≤ 3 ∧ items[0]? = some (.string e.code) ∧ ReadsAs items[1]? e.message ∧
      ReadsAs items[2]? e.target
  | _, _ => False

/-- What a decoder asks of a text that may be null. -/
theorem exists_optional_iff {j : Json} {text : String} :
    (∃ a, (Shape.optional .string).Means j a ∧ a.getD "" = text) ↔ ReadsAs (some j) text := by
  cases j <;> simp [Option.exists, Shape.Means, ReadsAs, eq_comm]

/-- What a decoder asks of a text that is absent. -/
theorem exists_absent_iff {text : String} :
    (∃ a : Option String, some none = some a ∧ a.getD "" = text) ↔ ReadsAs none text := by
  simp [ReadsAs, eq_comm (b := text)]

theorem filter_filter_ne {name other : String} (h : name ≠ other) (ms : List (String × Json)) :
    (ms.filter (·.1 ≠ other)).filter (·.1 = name) = ms.filter (·.1 = name) := by
  rw [List.filter_filter]
  refine List.filter_congr fun m _ => ?_
  by_cases hm : m.1 = name
  · simp [hm, h]
  · simp [hm]

section Sole

variable {name text : String} {ms : List (String × Json)}

theorem sole_of_single {m : String × Json} (h : ms.filter (·.1 = name) = [m]) (j : Option Json) :
    Sole name ms j ↔ j = some m.2 := by
  obtain ⟨n, v⟩ := m
  obtain rfl : n = name := by
    have hm : (n, v) ∈ ms.filter (·.1 = name) := h ▸ List.mem_singleton_self _
    simpa using (List.mem_filter.1 hm).2
  cases j with
  | none => simp [Sole, h]
  | some j => simp [Sole, h, eq_comm (a := j)]

/-- What a decoder asks of a text that must be there. -/
theorem gives_text_iff :
    Gives Shape.string.Means none (ms.filter (·.1 = name)) text ↔
      Sole name ms (some (.string text)) := by
  rcases h : ms.filter (·.1 = name) with _ | ⟨m, _ | ⟨m', l⟩⟩
  · simp [Gives, Sole, h]
  · rw [sole_of_single h, h]
    simp [Gives, Shape.Means, eq_comm]
  · simp [Gives, Sole, h]

/-- What a decoder asks of a text that may be null or absent. -/
theorem exists_gives_optional_iff :
    (∃ a : Option String,
        Gives (Shape.optional .string).Means (some none) (ms.filter (·.1 = name)) a ∧
          a.getD "" = text) ↔
      ∃ j, Sole name ms j ∧ ReadsAs j text := by
  rcases h : ms.filter (·.1 = name) with _ | ⟨m, _ | ⟨m', l⟩⟩
  · have hs (j : Option Json) : Sole name ms j ↔ j = none := by cases j <;> simp [Sole, h]
    simp [Gives, h, hs, ReadsAs, eq_comm (b := text)]
  · simp only [sole_of_single h, exists_eq_left, h, Gives]
    exact exists_optional_iff
  · have hs (j : Option Json) : ¬ Sole name ms j := by cases j <;> simp [Sole, h]
    simp [Gives, h, hs]

end Sole

/-- The parts of an error are found one by one. -/
theorem exists_parts_iff {code : String → Prop} {message target : Option String → Prop}
    {e : OperationError} :
    (∃ a m t, (code a ∧ message m ∧ target t) ∧
        (⟨a, m.getD "", t.getD ""⟩ : OperationError) = e) ↔
      code e.code ∧ (∃ m, message m ∧ m.getD "" = e.message) ∧
        ∃ t, target t ∧ t.getD "" = e.target := by
  constructor
  · rintro ⟨a, m, t, ⟨ha, hm, ht⟩, rfl⟩
    exact ⟨ha, ⟨m, hm, rfl⟩, t, ht, rfl⟩
  · rintro ⟨ha, ⟨m, hm, hme⟩, t, ht, hte⟩
    refine ⟨_, m, t, ⟨ha, hm, ht⟩, ?_⟩
    rw [hme, hte]

/-- A decoder of errors finds what the format describes. -/
theorem errorShape_means {j : Json} {e : OperationError} :
    errorShape.Means j e ↔ Describes j e := by
  unfold errorShape
  cases j with
  | object ms =>
    have htarget : ((ms.filter (·.1 ≠ "code")).filter (·.1 ≠ "message")).filter (·.1 = "target") =
        ms.filter (·.1 = "target") := by
      rw [filter_filter_ne (by decide), filter_filter_ne (by decide)]
    rw [Shape.record_means_object]
    simp only [Prod.exists, Fields.required, Fields.defaulted, Fields.Named, and_true, htarget,
      filter_filter_ne (show "message" ≠ "code" by decide), Except.ok.injEq]
    simp only [exists_const]
    rw [exists_parts_iff, gives_text_iff, exists_gives_optional_iff, exists_gives_optional_iff]
    rfl
  | array items =>
    rw [Shape.record_means_array]
    rcases items with _ | ⟨c, _ | ⟨m, _ | ⟨t, _ | ⟨x, l⟩⟩⟩⟩ <;>
      simp only [Prod.exists, Fields.required, Fields.defaulted, Fields.Listed, Except.ok.injEq,
        and_true, exists_const, exists_parts_iff, exists_absent_iff, exists_optional_iff] <;>
      simp [Describes, Shape.Means]
  | _ => simp [Shape.Means, Describes]

/-- An array may give null for a message and leave out the target. -/
example : Describes (.array [.string "NotFound", .null]) ⟨"NotFound", "", ""⟩ :=
  ⟨by decide, rfl, rfl, rfl⟩

/-! ## Errors in envelopes -/

/-- The envelope carries this as its error: the member `error`, or itself when it has a code
instead. -/
def Carries : Json → Json → Prop
  | .object ms, j =>
    (findValue? "error" ms = some j ∧ j ≠ .null) ∨
      ("error" ∉ ms.map Prod.fst ∧ "code" ∈ ms.map Prod.fst ∧ j = .object ms)
  | _, _ => False

/-- The envelope carries no error. -/
def Idle : Json → Prop
  | .null => True
  | .object ms =>
    findValue? "error" ms = some .null ∨ ("error" ∉ ms.map Prod.fst ∧ "code" ∉ ms.map Prod.fst)
  | _ => False

/-- The value is no envelope at all. -/
def Foreign : Json → Prop
  | .null | .object _ => False
  | .bool _ | .number _ | .string _ | .array _ => True

section Finding

variable {envelope j : Json} {ms : List (String × Json)} {f : EnvelopeFault}

theorem errorObject?_object : errorObject? (.object ms) =
    match findValue? "error" ms with
    | some .null => .ok none
    | some error => .ok (some error)
    | none => .ok (if (findValue? "code" ms).isSome then some (.object ms) else none) := rfl

theorem errorObject?_eq_none : errorObject? envelope = .ok none ↔ Idle envelope := by
  cases envelope with
  | null | bool _ | number _ | string _ | array _ => simp [errorObject?, Idle]
  | object ms =>
    rw [errorObject?_object, Idle, ← findValue?_isSome, ← findValue?_isSome]
    rcases findValue? "error" ms with _ | v
    · cases findValue? "code" ms <;> simp
    · cases v <;> simp

theorem errorObject?_eq_some : errorObject? envelope = .ok (some j) ↔ Carries envelope j := by
  cases envelope with
  | null | bool _ | number _ | string _ | array _ => simp [errorObject?, Carries]
  | object ms =>
    rw [errorObject?_object, Carries, ← findValue?_isSome, ← findValue?_isSome]
    rcases findValue? "error" ms with _ | v
    · cases findValue? "code" ms <;> simp [eq_comm]
    · by_cases hv : v = .null
      · subst hv
        simp only [Except.ok.injEq, Option.some.injEq, reduceCtorEq, false_iff]
        rintro (⟨rfl, hj⟩ | ⟨hno, _⟩)
        · exact hj rfl
        · exact hno rfl
      · simp only [Except.ok.injEq, Option.some.injEq, Option.isSome_some, not_true_eq_false,
          false_and, or_false]
        exact ⟨fun h => ⟨h, h ▸ hv⟩, And.left⟩

theorem foreign_of_errorObject? (h : errorObject? envelope = .error f) : Foreign envelope := by
  cases envelope with
  | null => cases h
  | bool _ | number _ | string _ | array _ => trivial
  | object ms =>
    rw [errorObject?_object] at h
    split at h <;> cases h

end Finding

/-- What a report says of an envelope; `tells` is how it tells an error that it understands. -/
inductive Reported (tells : OperationError → OperationError → Prop) (envelope : Json) :
    Option OperationError → Prop
  | nothing (h : Idle envelope) : Reported tells envelope none
  | error {j : Json} {outer e : OperationError} (hc : Carries envelope j) (hd : Describes j outer)
      (ht : tells outer e) : Reported tells envelope (some e)
  | malformed {j : Json} {message : String} (hc : Carries envelope j) (hd : ∀ e, ¬ Describes j e)
      (hm : message ≠ "") : Reported tells envelope (some ⟨"InvalidErrorEnvelope", message, ""⟩)
  | foreign {message : String} (h : Foreign envelope) (hm : message ≠ "") :
      Reported tells envelope (some ⟨"InvalidErrorEnvelope", message, ""⟩)

theorem message_ne_empty (f : EnvelopeFault) : f.message ≠ "" := by
  have hprefix {start text : String} (h : start ≠ "") : start ++ text ≠ "" := by
    simp [h]
  cases f with
  | notAnObject kind => exact hprefix (by decide)
  | malformed e => exact hprefix (by decide)

theorem readError_eq_ok {j : Json} {e : OperationError} :
    (some <$> errorShape.ofJson j).mapError EnvelopeFault.malformed = .ok (some e) ↔
      Describes j e := by
  rw [← errorShape_means, ← Shape.ofJson_eq_ok, mapError_eq_ok]
  cases errorShape.ofJson j <;> simp [Functor.map, Except.map]

/-- The report of an envelope whose error `f` tells. -/
theorem reported_map (f : OperationError → OperationError) (envelope : Json) :
    Reported (fun outer e => e = f outer) envelope
      (DeploymentResult.reportError ((error? envelope).map (Option.map f))) := by
  unfold error?
  cases h : errorObject? envelope with
  | error fault => exact .foreign (foreign_of_errorObject? h) (message_ne_empty _)
  | ok o =>
    cases o with
    | none => exact .nothing (errorObject?_eq_none.1 h)
    | some j =>
      have hc := errorObject?_eq_some.1 h
      show Reported _ _ (DeploymentResult.reportError
        (((some <$> errorShape.ofJson j).mapError .malformed).map (Option.map f)))
      cases hj : errorShape.ofJson j with
      | ok e => exact .error hc (errorShape_means.1 (Shape.ofJson_eq_ok.1 hj)) rfl
      | error why =>
        refine .malformed hc (fun e hd => ?_) (message_ne_empty _)
        rw [Shape.ofJson_eq_ok.2 (errorShape_means.2 hd)] at hj
        cases hj

/-! ## Errors in messages -/

/-- The message is the text of an envelope with this error. -/
def Nested (message : String) (e : OperationError) : Prop :=
  ∃ nested j, Json.parse message = .ok nested ∧ Carries nested j ∧ Describes j e

/-- An operation tells the error that the message of its own error holds, if it holds one. -/
def Unwraps (outer e : OperationError) : Prop :=
  Nested outer.message e ∨ ((∀ inner, ¬ Nested outer.message inner) ∧ e = outer)

theorem error?_eq_some {envelope : Json} {e : OperationError} :
    error? envelope = .ok (some e) ↔ ∃ j, Carries envelope j ∧ Describes j e := by
  unfold error?
  rw [bind_eq_ok]
  constructor
  · rintro ⟨o, ho, h⟩
    cases o with
    | none => cases h
    | some j => exact ⟨j, errorObject?_eq_some.1 ho, readError_eq_ok.1 h⟩
  · rintro ⟨j, hc, hd⟩
    exact ⟨some j, errorObject?_eq_some.2 hc, readError_eq_ok.2 hd⟩

theorem inner?_eq_some_iff {message : String} {e : OperationError} :
    inner? message = some e ↔ Nested message e := by
  unfold inner? Nested
  cases Json.parse message with
  | error f => simp
  | ok nested =>
    simp only [Except.ok.injEq, exists_and_left, exists_eq_left', ← error?_eq_some]
    cases error? nested <;> simp

theorem unwraps_inner (outer : OperationError) :
    Unwraps outer ((inner? outer.message).getD outer) := by
  cases h : inner? outer.message with
  | some e => exact .inl (inner?_eq_some_iff.1 h)
  | none =>
    refine .inr ⟨fun inner hi => ?_, rfl⟩
    rw [inner?_eq_some_iff.2 hi] at h
    cases h

theorem Reported.mono {tells tells' : OperationError → OperationError → Prop}
    (h : ∀ outer e, tells outer e → tells' outer e) {envelope : Json}
    {told : Option OperationError} (hr : Reported tells envelope told) :
    Reported tells' envelope told := by
  cases hr with
  | nothing hi => exact .nothing hi
  | error hc hd ht => exact .error hc hd (h _ _ ht)
  | malformed hc hd hm => exact .malformed hc hd hm
  | foreign hf hm => exact .foreign hf hm

theorem reported_error? (envelope : Json) :
    Reported Eq envelope (DeploymentResult.reportError (error? envelope)) := by
  have h : Reported Eq envelope
      (DeploymentResult.reportError ((error? envelope).map (Option.map id))) :=
    (reported_map id envelope).mono fun _ _ he => he.symm
  have hid : (error? envelope).map (Option.map id) = error? envelope := by
    cases error? envelope with
    | error f => rfl
    | ok e => simp [Except.map]
  rwa [hid] at h

theorem reported_operationError? (envelope : Json) :
    Reported Unwraps envelope (DeploymentResult.reportError (operationError? envelope)) := by
  refine (reported_map _ envelope).mono fun outer e he => ?_
  rw [he]
  exact unwraps_inner outer

end Envelope

/-! ## Results -/

/-- What a report says where an envelope may be: nothing, when there is none. -/
def Envelope.ReportedIn (tells : OperationError → OperationError → Prop) :
    Option Json → Option OperationError → Prop
  | none, told => told = none
  | some envelope, told => Reported tells envelope told

/-- The report of an operation tells what is recorded of it. -/
structure OperationRecord.Renders (r : OperationRecord) (p : OperationReport) : Prop where
  name : p.resourceName = r.resourceName
  state : p.provisioningState = r.state.getD "Failed"
  error : Envelope.ReportedIn Envelope.Unwraps r.status p.error

/-- The report tells what is recorded of a deployment and of each of its operations. -/
structure DeploymentResult.Renders (r : DeploymentResult) (p : Report) : Prop where
  state : p.deployment.provisioningState = r.state.getD "Failed"
  outputs : p.deployment.outputs.entries =
    match r.outputs with
    | none => []
    | some outputs => outputs.entries.map fun o => (o.1, o.2.value)
  error : Envelope.ReportedIn Eq r.error p.deployment.error
  operations : List.Forall₂ OperationRecord.Renders r.operations p.operations

theorem OperationRecord.renders (r : OperationRecord) : r.Renders r.report where
  name := rfl
  state := rfl
  error := by
    unfold report
    cases r.status with
    | none => rfl
    | some envelope => exact Envelope.reported_operationError? envelope

/-- **A report loses, invents and reorders nothing.** For every result, whatever its engine put
into it, the report has the states, the outputs and the operations of the result in their order,
and of each envelope it tells the error in it, that there is none, or that it is not understood. -/
theorem DeploymentResult.report_renders (r : DeploymentResult) : r.Renders r.report where
  state := rfl
  outputs := by
    unfold report outputValues
    cases r.outputs <;> rfl
  error := by
    unfold report
    cases r.error with
    | none => rfl
    | some envelope => exact Envelope.reported_error? envelope
  operations := by
    show List.Forall₂ _ r.operations (r.operations.map OperationRecord.report)
    rw [List.forall₂_map_right_iff, List.forall₂_same]
    exact fun record _ => record.renders

end Provision
