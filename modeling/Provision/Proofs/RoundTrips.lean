import Provision.Contract.Report
import Provision.Contract.Request
import Provision.Contract.Result
import Provision.Proofs.Lossless
import Provision.Repository.Properties
import Provision.Utility.Properties

/-!
# Round trips of the wire format

Every type of the wire format comes back from its encoding (`WireFormat.roundTrips`): from the Json
value, whose members are sorted, and from compact text, unless the encoding nests deeper than the
reader goes or holds a double. The Json in a value is sorted as all Json that was read; of what the
types can hold, two things are not told apart in their encodings: null for optional Json, which is
read as absent, and the order of settings.

For each type there is a lemma that its shape is lawful, which is where the fields that are written
and those that are read must agree, and one that its values are proper.
-/

namespace Provision

open Json

namespace Json

/-! ## Restoring a value -/

/-- Decoding the encoding of the value gives a value with this property, by way of Json and by way
of text, with the members as they are written or sorted. -/
structure Shape.Restores {α : Type} (s : Shape α) (a : α) (P : α → Prop) : Prop where
  value : ∃ b, s.ofJson (s.toJson a) = .ok b ∧ P b
  text : (s.write a).depth ≤ nesting → Integral (s.write a) →
    ∃ b, s.ofText (s.text a) = .ok b ∧ P b
  sortedText : (s.toJson a).depth ≤ nesting → Integral (s.toJson a) →
    ∃ b, s.ofText (s.toJson a).compact = .ok b ∧ P b

section Restores

variable {α : Type} {s : Shape α} {a b : α} {P : α → Prop}

/-- A value is read from its compact text. -/
theorem Shape.ofText_compact {j : Json} (hd : j.depth ≤ nesting) (hi : Integral j)
    (h : s.Means j b) : s.ofText j.compact = .ok b := by
  obtain ⟨n, hread, hholds⟩ := Document.read_compact hd hi
  exact (Shape.ofText_eq_ok hread hholds).2 h

theorem Shape.restores_of_means {b' : α} (h : s.Means (s.write a) b) (hP : P b)
    (h' : s.Means (s.toJson a) b') (hP' : P b') : s.Restores a P where
  value := ⟨b', Shape.ofJson_eq_ok.2 h', hP'⟩
  text hd hi := ⟨b, Shape.ofText_compact hd hi h, hP⟩
  sortedText hd hi := ⟨b', Shape.ofText_compact hd hi h', hP'⟩

theorem Shape.restores_of_proper (hl : s.Lawful) (ho : s.Orderless) (h : s.Proper a) :
    s.Restores a (a = ·) :=
  have hm := Shape.means_write hl h
  Shape.restores_of_means hm rfl (Shape.means_canonical ho hm) rfl

/-- Values that are written alike are restored alike. -/
theorem Shape.Restores.congr (h : s.write a = s.write b) (hr : s.Restores b P) :
    s.Restores a P := by
  obtain ⟨hv, ht, hs⟩ := hr
  have hj : s.toJson a = s.toJson b := congrArg Json.canonical h
  have hx : s.text a = s.text b := congrArg Json.compact h
  refine ⟨?_, ?_, ?_⟩
  · rwa [hj]
  · rwa [h, hx]
  · rwa [hj]

end Restores

/-- Encoded values come back. -/
structure Shape.RoundTrips {α : Type} (s : Shape α) (Fits : α → Prop) (seen : α → α)
    (Same : α → α → Prop) : Prop where
  /-- A value that fits comes back as `seen` tells. -/
  back : ∀ a, Fits a → s.Restores a (Same (seen a))
  /-- A value that was read comes back as it is, whatever it was read from. -/
  again : ∀ j a, s.ofJson j = .ok a → s.Restores a (Same a)

/-- The values of a lawful shape come back if they are read as proper values that are written
alike. -/
theorem Shape.roundTrips_of_lawful {α : Type} {s : Shape α} {Fits : α → Prop} {seen : α → α}
    (hl : s.Lawful) (ho : s.Orderless) (hproper : ∀ a, Fits a → s.Proper (seen a))
    (hwrite : ∀ a, s.write (seen a) = s.write a) : s.RoundTrips Fits seen Eq where
  back a ha := (Shape.restores_of_proper hl ho (hproper a ha)).congr (hwrite a).symm
  again _ _ h := Shape.restores_of_proper hl ho (Shape.proper_of_means hl (Shape.ofJson_eq_ok.1 h))

end Json

/-! ## Lawful shapes -/

theorem ProviderKey.lawful_shape : ProviderKey.shape.Lawful :=
  Shape.lawful_record (by simp) (fun _ => rfl) fun _ _ h => by cases h; rfl

theorem OperationRequest.lawful_shape : OperationRequest.shape.Lawful := by
  have hconfig : (Shape.view (.entries .any) Dictionary.ofList
      (Dictionary.entries : Dictionary String Json → _)).Lawful :=
    ⟨trivial, Dictionary.ofList_entries, fun _ h e he => h e (Dictionary.mem_of_mem_ofList he)⟩
  have hempty : (Shape.view (.entries .any) Dictionary.ofList
      (Dictionary.entries : Dictionary String Json → _)).Proper ∅ :=
    fun e he => absurd he List.not_mem_nil
  exact Shape.lawful_record (by simp [hconfig, hempty]) (fun _ => rfl) fun _ _ h => by cases h; rfl

theorem ResourceData.lawful_shape : ResourceData.shape.Lawful :=
  Shape.lawful_record (by simp) (fun _ => rfl) fun _ _ h => by cases h; rfl

theorem OperationError.lawful_shape : OperationError.shape.Lawful :=
  Shape.lawful_record (by simp [Shape.Proper]) (fun _ => rfl) fun _ _ h => by cases h; rfl

theorem OperationResponse.lawful_shape : OperationResponse.shape.Lawful := by
  have hresource : (Shape.optional ResourceData.shape).Lawful :=
    Shape.lawful_optional ResourceData.lawful_shape fun _ => by
      simp [ResourceData.shape, Shape.write]
  refine Shape.lawful_record (by simp [hresource, OperationError.lawful_shape, Shape.Proper])
    (fun r => ?_) fun a r h => ?_
  · cases r <;> rfl
  · obtain ⟨resource, errors, _⟩ := a
    unfold ofParts at h
    dsimp only at h
    split at h <;> cases h <;> rfl

theorem DeploymentOutput.lawful_shape : DeploymentOutput.shape.Lawful :=
  Shape.lawful_record (by simp [Shape.Proper, Canonical]) (fun _ => rfl) fun _ _ h => by
    cases h; rfl

theorem OperationRecord.lawful_shape : OperationRecord.shape.Lawful :=
  Shape.lawful_record (by simp [Shape.Proper]) (fun _ => rfl) fun _ _ h => by cases h; rfl

theorem DeploymentResult.lawful_shape : DeploymentResult.shape.Lawful := by
  have houtputs : (Shape.optional (.table DeploymentOutput.shape)).Lawful :=
    Shape.lawful_optional (Shape.lawful_table DeploymentOutput.lawful_shape) fun _ => by
      simp [Shape.table, Shape.write]
  exact Shape.lawful_record (by simp [houtputs, OperationRecord.lawful_shape, Shape.Proper])
    (fun _ => rfl) fun _ _ h => by cases h; rfl

theorem OperationError.lawful_optional_shape : (Shape.optional OperationError.shape).Lawful :=
  Shape.lawful_optional OperationError.lawful_shape fun _ => by
    simp [OperationError.shape, Shape.write]

theorem DeploymentReport.lawful_shape : DeploymentReport.shape.Lawful :=
  Shape.lawful_record
    (by simp [Shape.lawful_table Shape.lawful_any, OperationError.lawful_optional_shape])
    (fun _ => rfl) fun _ _ h => by cases h; rfl

theorem OperationReport.lawful_shape : OperationReport.shape.Lawful :=
  Shape.lawful_record (by simp [OperationError.lawful_optional_shape]) (fun _ => rfl)
    fun _ _ h => by cases h; rfl

theorem Report.lawful_shape : Report.shape.Lawful :=
  Shape.lawful_record (by simp [DeploymentReport.lawful_shape, OperationReport.lawful_shape])
    (fun _ => rfl) fun _ _ h => by cases h; rfl

theorem Utility.WaitRequest.lawful_shape : Utility.WaitRequest.shape.Lawful :=
  Shape.lawful_record (by simp) (fun _ => rfl) fun _ _ h => by cases h; rfl

theorem Utility.AssertRequest.lawful_shape : Utility.AssertRequest.shape.Lawful :=
  Shape.lawful_record (by simp) (fun _ => rfl) fun _ _ h => by cases h; rfl

theorem Utility.RunScriptRequest.lawful_shape : Utility.RunScriptRequest.shape.Lawful :=
  Shape.lawful_record (by simp) (fun _ => rfl) fun _ _ h => by cases h; rfl

theorem Utility.RunScriptResponse.lawful_shape : Utility.RunScriptResponse.shape.Lawful :=
  Shape.lawful_record (by simp) (fun _ => rfl) fun _ _ h => by cases h; rfl

theorem Repository.RepositoryRequest.lawful_shape :
    Repository.RepositoryRequest.shape.Lawful :=
  Shape.lawful_record (by simp) (fun _ => rfl) fun _ _ h => by cases h; rfl

/-! ## Values with sorted Json -/

/-- The Json in the request is sorted. -/
structure OperationRequest.Sorted (r : OperationRequest) : Prop where
  properties : Canonical r.properties
  importConfig : ∀ e ∈ r.importConfig.entries, Canonical e.2

/-- The Json in the resource is sorted. -/
def ResourceData.Sorted (r : ResourceData) : Prop := Canonical r.properties

/-- The Json in the answer is sorted. -/
def OperationResponse.Sorted (r : OperationResponse) : Prop :=
  ∀ data, r = .succeeded data → data.Sorted

/-- The Json in the output is sorted. -/
def DeploymentOutput.Sorted (o : DeploymentOutput) : Prop := Canonical o.value

/-- The Json in the record is sorted. -/
def OperationRecord.Sorted (r : OperationRecord) : Prop := ∀ j, r.status = some j → Canonical j

/-- The Json in the result is sorted. -/
structure DeploymentResult.Sorted (r : DeploymentResult) : Prop where
  outputs : ∀ outputs, r.outputs = some outputs → ∀ o ∈ outputs.entries, o.2.Sorted
  error : ∀ j, r.error = some j → Canonical j
  operations : ∀ o ∈ r.operations, o.Sorted

/-- The Json in the section is sorted. -/
def DeploymentReport.Sorted (r : DeploymentReport) : Prop := ∀ o ∈ r.outputs.entries, Canonical o.2

/-- The Json in the report is sorted. -/
def Report.Sorted (r : Report) : Prop := r.deployment.Sorted

theorem OperationRequest.proper_shape {r : OperationRequest} (h : r.Sorted) :
    OperationRequest.shape.Proper r := ⟨trivial, h.properties, h.importConfig, trivial⟩

theorem ResourceData.proper_shape {r : ResourceData} (h : r.Sorted) :
    ResourceData.shape.Proper r := ⟨trivial, h, trivial⟩

theorem OperationError.proper_shape (e : OperationError) : OperationError.shape.Proper e :=
  ⟨trivial, trivial, trivial, trivial⟩

theorem OperationResponse.proper_shape {r : OperationResponse} (h : r.Sorted) :
    OperationResponse.shape.Proper r := by
  have hresource : (Shape.optional ResourceData.shape).Proper r.resource? := by
    rw [Shape.proper_optional]
    intro data hdata
    refine ⟨by simp [ResourceData.shape, Shape.write], ResourceData.proper_shape (h data ?_)⟩
    cases r with
    | succeeded data' => exact congrArg succeeded (Option.some.inj hdata)
    | failed errors => cases hdata
  exact ⟨hresource, fun e _ => e.proper_shape, trivial⟩

theorem DeploymentOutput.proper_shape {o : DeploymentOutput} (h : o.Sorted) :
    DeploymentOutput.shape.Proper o := ⟨Shape.proper_optional_string o.outputType, h, trivial⟩

/-- A record is proper unless its status is null. -/
theorem OperationRecord.proper_shape {r : OperationRecord} (h : r.Sorted)
    (hnull : r.status ≠ some .null) : OperationRecord.shape.Proper r :=
  ⟨trivial, Shape.proper_optional_string r.state, Shape.proper_optional_any hnull h, trivial⟩

/-- A result is proper unless its error or the status of an operation is null. -/
theorem DeploymentResult.proper_shape {r : DeploymentResult} (h : r.Sorted)
    (hnull : r.error ≠ some .null) (hoperations : ∀ o ∈ r.operations, o.status ≠ some .null) :
    DeploymentResult.shape.Proper r := by
  have houtputs : (Shape.optional (.table DeploymentOutput.shape)).Proper r.outputs := by
    rw [Shape.proper_optional]
    exact fun outputs ho => ⟨by simp [Shape.table, Shape.write], fun o hmem =>
      DeploymentOutput.proper_shape (h.outputs outputs ho o hmem)⟩
  exact ⟨Shape.proper_optional_string r.state, houtputs, Shape.proper_optional_any hnull h.error,
    fun o ho => OperationRecord.proper_shape (h.operations o ho) (hoperations o ho), trivial⟩

theorem OperationError.proper_optional_shape (e : Option OperationError) :
    (Shape.optional OperationError.shape).Proper e :=
  Shape.proper_optional.2 fun e _ => ⟨by simp [shape, Shape.write], e.proper_shape⟩

theorem DeploymentReport.proper_shape {r : DeploymentReport} (h : r.Sorted) :
    DeploymentReport.shape.Proper r :=
  ⟨trivial, h, OperationError.proper_optional_shape r.error, trivial⟩

theorem OperationReport.proper_shape (r : OperationReport) : OperationReport.shape.Proper r :=
  ⟨trivial, trivial, OperationError.proper_optional_shape r.error, trivial⟩

theorem Report.proper_shape {r : Report} (h : r.Sorted) : Report.shape.Proper r :=
  ⟨DeploymentReport.proper_shape h, fun o _ => o.proper_shape, trivial⟩

/-! ## Null where Json is optional -/

/-- What is read back of optional Json: null counts as absent. -/
def Json.unlessNull : Option Json → Option Json
  | some .null => none
  | o => o

/-- The record with no status for one that is null. -/
def OperationRecord.withoutNull (r : OperationRecord) : OperationRecord :=
  { r with status := unlessNull r.status }

/-- The result with no error for one that is null, and so for its operations. -/
def DeploymentResult.withoutNull (r : DeploymentResult) : DeploymentResult :=
  { r with
    error := unlessNull r.error
    operations := r.operations.map OperationRecord.withoutNull }

theorem Json.unlessNull_ne (o : Option Json) : unlessNull o ≠ some .null := by
  unfold unlessNull
  split
  · simp
  · rename_i h
    exact h

theorem Json.of_unlessNull_eq_some {o : Option Json} {j : Json} (h : unlessNull o = some j) :
    o = some j := by
  unfold unlessNull at h
  split at h
  · cases h
  · exact h

theorem Json.write_unlessNull (o : Option Json) :
    (Shape.optional .any).write (unlessNull o) = (Shape.optional .any).write o := by
  unfold unlessNull
  split <;> rfl

theorem OperationRecord.write_withoutNull (r : OperationRecord) :
    OperationRecord.shape.write r.withoutNull = OperationRecord.shape.write r := by
  simp [shape, withoutNull, Shape.write, Fields.required, Fields.defaulted, Fields.write,
    write_unlessNull]

theorem DeploymentResult.write_withoutNull (r : DeploymentResult) :
    DeploymentResult.shape.write r.withoutNull = DeploymentResult.shape.write r := by
  simp [shape, withoutNull, Shape.write, Fields.defaulted, Fields.write, write_unlessNull,
    OperationRecord.write_withoutNull, Function.comp_def]

theorem OperationRecord.Sorted.withoutNull {r : OperationRecord} (h : r.Sorted) :
    r.withoutNull.Sorted := fun j hj => h j (of_unlessNull_eq_some hj)

theorem DeploymentResult.Sorted.withoutNull {r : DeploymentResult} (h : r.Sorted) :
    r.withoutNull.Sorted where
  outputs := h.outputs
  error j hj := h.error j (of_unlessNull_eq_some hj)
  operations := by
    intro o ho
    obtain ⟨o', ho', rfl⟩ := List.mem_map.1 ho
    exact (h.operations o' ho').withoutNull

/-! ## Settings in any order -/

/-- The requests are equal, settings compared one by one. -/
structure OperationRequest.Same (r r' : OperationRequest) : Prop where
  resourceType : r'.resourceType = r.resourceType
  properties : r'.properties = r.properties
  importConfig : ∀ key, r'.importConfig.get? key = r.importConfig.get? key

theorem OperationRequest.toJson_shape (r : OperationRequest) :
    OperationRequest.shape.toJson r =
      .object [("importConfig", .object (canonicalMembers r.importConfig.entries [])),
        ("resourceProperties", r.properties.canonical),
        ("resourceType", .string r.resourceType)] := by
  have h₁ : "resourceProperties" < "resourceType" := by decide +kernel
  have h₂ : "importConfig" < "resourceProperties" := by decide +kernel
  simp [Shape.toJson, shape, Shape.write, Fields.required, Fields.defaulted, Fields.write,
    canonical, canonicalMembers, insertEntry, h₁, h₂]

theorem Json.entries_any_means {ms : List (String × Json)} (h : CanonicalMembers ms) :
    (Shape.entries .any).Means (.object ms) ms := by
  refine ⟨ms, rfl, List.forall₂_same.2 fun m hm => ⟨rfl, ?_⟩⟩
  exact (canonical_eq_self (canonicalMembers_iff.1 h m hm)).symm

theorem OperationRequest.means_toJson {r : OperationRequest} (h : r.Sorted) :
    ∃ r', OperationRequest.shape.Means (OperationRequest.shape.toJson r) r' ∧ r.Same r' := by
  let entries := canonicalMembers r.importConfig.entries []
  have hentries : (Shape.entries .any).Means (.object entries) entries :=
    entries_any_means (canonicalMembers_canonicalMembers r.importConfig.entries [] trivial)
  have hm : OperationRequest.shape.Means (OperationRequest.shape.toJson r)
      ⟨r.resourceType, r.properties, Dictionary.ofList entries⟩ := by
    have hproperties : r.properties = r.properties.canonical.canonical := by
      rw [canonical_eq_self (canonical_canonical _), canonical_eq_self h.properties]
    rw [toJson_shape]
    refine Shape.record_means_object.2 ⟨(_, _, _, ()), ⟨?_, ?_, ?_, trivial⟩, rfl⟩
    · simp [Gives, Shape.Means]
    · simpa [Gives, Shape.Means] using hproperties
    · simpa [Gives] using ⟨entries, hentries, rfl⟩
  refine ⟨_, hm, rfl, rfl, fun key => ?_⟩
  have hnodup : (entries.map Prod.fst).Nodup :=
    (ascending_canonicalMembers ascending_nil).nodup_keys
  show findValue? key (Dictionary.ofList entries).entries = findValue? key r.importConfig.entries
  rw [Dictionary.entries_ofList hnodup, findValue?_canonicalMembers r.importConfig.distinct]
  cases hfind : findValue? key r.importConfig.entries with
  | none => rfl
  | some j =>
    exact congrArg some (canonical_eq_self (h.importConfig _ (mem_of_findValue? hfind)))

theorem OperationRequest.restores {r : OperationRequest} (h : r.Sorted) :
    OperationRequest.shape.Restores r r.Same := by
  obtain ⟨r', hm, hsame⟩ := means_toJson h
  exact Shape.restores_of_means (Shape.means_write lawful_shape (proper_shape h))
    ⟨rfl, rfl, fun _ => rfl⟩ hm hsame

/-! ## The format -/

/-- Every type of the wire format round-trips: decoding what was encoded gives the value back, with
null for optional Json read as absent and settings in any order. -/
structure WireFormat.RoundTrips : Prop where
  providerKey : ProviderKey.shape.RoundTrips (fun _ => True) id Eq
  operationRequest :
    OperationRequest.shape.RoundTrips OperationRequest.Sorted id OperationRequest.Same
  resourceData : ResourceData.shape.RoundTrips ResourceData.Sorted id Eq
  operationError : OperationError.shape.RoundTrips (fun _ => True) id Eq
  operationResponse : OperationResponse.shape.RoundTrips OperationResponse.Sorted id Eq
  deploymentOutput : DeploymentOutput.shape.RoundTrips DeploymentOutput.Sorted id Eq
  operationRecord :
    OperationRecord.shape.RoundTrips OperationRecord.Sorted OperationRecord.withoutNull Eq
  deploymentResult :
    DeploymentResult.shape.RoundTrips DeploymentResult.Sorted DeploymentResult.withoutNull Eq
  deploymentReport : DeploymentReport.shape.RoundTrips DeploymentReport.Sorted id Eq
  operationReport : OperationReport.shape.RoundTrips (fun _ => True) id Eq
  report : Report.shape.RoundTrips Report.Sorted id Eq
  waitRequest : Utility.WaitRequest.shape.RoundTrips (fun _ => True) id Eq
  assertRequest : Utility.AssertRequest.shape.RoundTrips (fun _ => True) id Eq
  runScriptRequest : Utility.RunScriptRequest.shape.RoundTrips (fun _ => True) id Eq
  runScriptResponse : Utility.RunScriptResponse.shape.RoundTrips (fun _ => True) id Eq
  repositoryRequest : Repository.RepositoryRequest.shape.RoundTrips (fun _ => True) id Eq

theorem OperationError.orderless_shape : OperationError.shape.Orderless :=
  ⟨trivial, trivial, trivial, trivial⟩

theorem DeploymentOutput.orderless_shape : DeploymentOutput.shape.Orderless :=
  ⟨trivial, trivial, trivial⟩

theorem OperationRecord.orderless_shape : OperationRecord.shape.Orderless :=
  ⟨trivial, trivial, trivial, trivial⟩

theorem DeploymentReport.orderless_shape : DeploymentReport.shape.Orderless :=
  ⟨trivial, Shape.orderless_table trivial, OperationError.orderless_shape, trivial⟩

theorem OperationReport.orderless_shape : OperationReport.shape.Orderless :=
  ⟨trivial, trivial, OperationError.orderless_shape, trivial⟩

/-- **The wire format loses nothing.** For each type, decoding the encoding of a value gives it
back, by way of Json and by way of text, and gives back exactly what was ever read. -/
theorem WireFormat.roundTrips : WireFormat.RoundTrips where
  providerKey := Shape.roundTrips_of_lawful ProviderKey.lawful_shape ⟨trivial, trivial, trivial⟩
    (fun _ _ => ⟨trivial, trivial, trivial⟩) fun _ => rfl
  operationRequest :=
    { back := fun _ => OperationRequest.restores
      again := fun j r h => by
        have hp := Shape.proper_of_means OperationRequest.lawful_shape (Shape.ofJson_eq_ok.1 h)
        exact OperationRequest.restores ⟨hp.2.1, hp.2.2.1⟩ }
  resourceData := Shape.roundTrips_of_lawful ResourceData.lawful_shape ⟨trivial, trivial, trivial⟩
    (fun _ => ResourceData.proper_shape) fun _ => rfl
  operationError := Shape.roundTrips_of_lawful OperationError.lawful_shape
    OperationError.orderless_shape (fun e _ => e.proper_shape) fun _ => rfl
  operationResponse := Shape.roundTrips_of_lawful OperationResponse.lawful_shape
    ⟨⟨trivial, trivial, trivial⟩, OperationError.orderless_shape, trivial⟩
    (fun _ => OperationResponse.proper_shape) fun _ => rfl
  deploymentOutput := Shape.roundTrips_of_lawful DeploymentOutput.lawful_shape
    DeploymentOutput.orderless_shape (fun _ => DeploymentOutput.proper_shape) fun _ => rfl
  operationRecord := Shape.roundTrips_of_lawful OperationRecord.lawful_shape
    OperationRecord.orderless_shape
    (fun _ h => OperationRecord.proper_shape h.withoutNull (unlessNull_ne _))
    OperationRecord.write_withoutNull
  deploymentResult := Shape.roundTrips_of_lawful DeploymentResult.lawful_shape
    ⟨trivial, Shape.orderless_table DeploymentOutput.orderless_shape, trivial,
      OperationRecord.orderless_shape, trivial⟩
    (fun r h => DeploymentResult.proper_shape h.withoutNull (unlessNull_ne _) fun o ho => by
      obtain ⟨o', -, rfl⟩ := List.mem_map.1 ho
      exact unlessNull_ne _)
    DeploymentResult.write_withoutNull
  deploymentReport := Shape.roundTrips_of_lawful DeploymentReport.lawful_shape
    DeploymentReport.orderless_shape (fun _ => DeploymentReport.proper_shape) fun _ => rfl
  operationReport := Shape.roundTrips_of_lawful OperationReport.lawful_shape
    OperationReport.orderless_shape (fun r _ => r.proper_shape) fun _ => rfl
  report := Shape.roundTrips_of_lawful Report.lawful_shape
    ⟨DeploymentReport.orderless_shape, OperationReport.orderless_shape, trivial⟩
    (fun _ => Report.proper_shape) fun _ => rfl
  waitRequest := Shape.roundTrips_of_lawful Utility.WaitRequest.lawful_shape ⟨trivial, trivial⟩
    (fun _ _ => ⟨trivial, trivial⟩) fun _ => rfl
  assertRequest := Shape.roundTrips_of_lawful Utility.AssertRequest.lawful_shape
    ⟨trivial, trivial, trivial⟩ (fun _ _ => ⟨trivial, trivial, trivial⟩) fun _ => rfl
  runScriptRequest := Shape.roundTrips_of_lawful Utility.RunScriptRequest.lawful_shape
    ⟨trivial, trivial⟩ (fun _ _ => ⟨trivial, trivial⟩) fun _ => rfl
  runScriptResponse := Shape.roundTrips_of_lawful Utility.RunScriptResponse.lawful_shape
    ⟨trivial, trivial, trivial, trivial⟩ (fun _ _ => ⟨trivial, trivial, trivial, trivial⟩)
    fun _ => rfl
  repositoryRequest := Shape.roundTrips_of_lawful Repository.RepositoryRequest.lawful_shape
    ⟨trivial, trivial, trivial⟩ (fun _ _ => ⟨trivial, trivial, trivial⟩) fun _ => rfl

/-- A record with a status that is null comes back with none. -/
theorem WireFormat.roundTrips_nullStatus :
    (∀ j, (some Json.null : Option Json) = some j → Canonical j) ∧
      OperationRecord.shape.Restores ⟨"r", none, some .null⟩ (⟨"r", none, none⟩ = ·) := by
  have hsorted : ∀ j, (some Json.null : Option Json) = some j → Canonical j := by
    rintro j ⟨rfl⟩
    trivial
  exact ⟨hsorted, WireFormat.roundTrips.operationRecord.back _ hsorted⟩

end Provision
