import Provision.Proofs.Envelopes
import Provision.Proofs.Lossless

/-!
# Responses

A response carries the resource or the errors, of which there is then at least one. No response of
any other kind can be made: `OperationResponse.Made` lists the ways to make one, and what a response
was made of is what it carries (`Made.carries`). A decoder first reads the two parts,
`OperationResponse.Parts`, each of which may be absent, and then asks that exactly one of them is
there (`ofJson_of_parts`); an encoder writes both, one of them empty (`write_shape`).
-/

namespace Provision

open Json

namespace Json

/-! ## Records in two steps -/

section Steps

variable {α β : Type} {name : String} {fields : Fields α} {build : α → Except String β}
  {parts : β → α}

/-- A record is read in two steps: its fields, and what is built of them. -/
theorem Shape.record_decode (n : Node) :
    (Shape.record name fields build parts).decode n =
      (Shape.record name fields .ok id).decode n >>= fun a =>
        (build a).mapError fun why => .complaint (.refused why) none := by
  have hok (x : Except Refusal α) :
      (x >>= fun a => ((Except.ok a : Except String α).mapError fun why =>
        Refusal.complaint (.refused why) none)) = x := by
    cases x <;> rfl
  simp only [Shape.decode, hok]
  cases n <;> simp only [bind_assoc]

/-- What a record stands for is built of its fields. -/
theorem Shape.record_means {j : Json} {b : β} :
    (Shape.record name fields build parts).Means j b ↔
      ∃ a, (Shape.record name fields .ok id).Means j a ∧ build a = .ok b := by
  simp only [Shape.Means, Except.ok.injEq, exists_eq_right]

/-- A record whose fields can be read is what is built of them, or refused. -/
theorem Shape.decode_of_fields {n : Node} {j : Json} {a : α} (hn : n.Holds j)
    (h : (Shape.record name fields .ok id).Means j a) :
    (Shape.record name fields build parts).decode n =
      (build a).mapError fun why => .complaint (.refused why) none := by
  have hdecode := (Shape.decode_eq_ok _ n j a hn).2 h
  rw [Shape.record_decode, hdecode]
  rfl

end Steps

end Json

namespace Envelope

/-- A field takes its value from the sole member of its name, or from there being none. -/
theorem gives_iff_exists_sole {α : Type} {means : Json → α → Prop} {absent : Option α}
    {holds : Option Json → α → Prop} {name : String} {ms : List (String × Json)} {a : α}
    (hnone : absent = some a ↔ holds none a) (hsome : ∀ j, means j a ↔ holds (some j) a) :
    Gives means absent (ms.filter (·.1 = name)) a ↔ ∃ j, Sole name ms j ∧ holds j a := by
  rcases h : ms.filter (·.1 = name) with _ | ⟨m, _ | ⟨m', l⟩⟩
  · have hs (j : Option Json) : Sole name ms j ↔ j = none := by cases j <;> simp [Sole, h]
    rw [h]
    simp only [hs, exists_eq_left]
    exact hnone
  · rw [h]
    simp only [sole_of_single h, exists_eq_left]
    exact hsome m.2
  · have hs (j : Option Json) : ¬ Sole name ms j := by cases j <;> simp [Sole, h]
    rw [h]
    simp only [hs, false_and, exists_false, iff_false]
    exact id

end Envelope

open Envelope

namespace OperationErrors

/-- Errors can be made of every list but the empty one. -/
theorem ofList?_eq_none {es : List OperationError} : ofList? es = none ↔ es = [] := by
  cases es <;> simp [ofList?]

/-- The errors made of a list are those of the list. -/
theorem ofList?_eq_some {es : List OperationError} {errors : OperationErrors} :
    ofList? es = some errors ↔ errors.toList = es := by
  obtain ⟨first, others⟩ := errors
  cases es with
  | nil => simp [ofList?, toList]
  | cons e es => simp [ofList?, toList, eq_comm]

theorem toList_ne_nil (errors : OperationErrors) : errors.toList ≠ [] := by
  unfold toList
  exact List.cons_ne_nil _ _

end OperationErrors

namespace OperationResponse

/-! ## What a response carries -/

/-- The response carries this resource and these errors. -/
def Carries (r : OperationResponse) (data : Option ResourceData) (es : List OperationError) :
    Prop := r.resource? = data ∧ r.errors = es

/-- A resource and no errors, or no resource and at least one error. -/
def OneOf (data : Option ResourceData) (es : List OperationError) : Prop :=
  Xor (data ≠ none) (es ≠ [])

section Carrying

variable {r : OperationResponse} {data : Option ResourceData} {es : List OperationError}

/-- What a response carries is one of the two, and its kind tells which. -/
theorem oneOf_of_carries (h : r.Carries data es) :
    OneOf data es ∧ (r.isSuccess = true ↔ data ≠ none) ∧ (r.isSuccess = false ↔ es ≠ []) := by
  obtain ⟨rfl, rfl⟩ := h
  cases r with
  | succeeded resource => simp [OneOf, Xor, resource?, errors, isSuccess]
  | failed errors' => simp [OneOf, Xor, resource?, errors, isSuccess, errors'.toList_ne_nil]

theorem ofParts_eq_ok : ofParts data es = .ok r ↔ r.Carries data es := by
  unfold Carries
  constructor
  · intro h
    unfold ofParts at h
    split at h <;> cases h <;> exact ⟨rfl, rfl⟩
  · rintro ⟨rfl, rfl⟩
    cases r <;> rfl

/-- A response can be put together of its parts if there is exactly one. -/
theorem exists_ofParts : (∃ r, ofParts data es = .ok r) ↔ OneOf data es := by
  constructor
  · rintro ⟨r, h⟩
    exact (oneOf_of_carries (ofParts_eq_ok.1 h)).1
  · intro h
    unfold OneOf at h
    cases data <;> cases es <;> first | exact ⟨_, rfl⟩ | simp [Xor] at h

end Carrying

/-! ## The parts of a response in Json -/

/-- What stands in the place of the resource: nothing, null, or a resource. -/
def HoldsResource : Option Json → Option ResourceData → Prop
  | none, data | some .null, data => data = none
  | some j, data => ∃ resource, ResourceData.shape.ofJson j = .ok resource ∧ data = some resource

/-- What stands in the place of the errors: nothing, or a list of errors. -/
def HoldsErrors : Option Json → List OperationError → Prop
  | none, es => es = []
  | some j, es => ∃ js, j = .array js ∧
      List.Forall₂ (fun j e => OperationError.shape.ofJson j = .ok e) js es

/-- The parts that can be read of a Json value: of an object those under their names, of an array
those in their places. -/
def Parts : Json → Option ResourceData → List OperationError → Prop
  | .object ms, data, es =>
    (∃ j, Sole "resource" ms j ∧ HoldsResource j data) ∧ ∃ j, Sole "errors" ms j ∧ HoldsErrors j es
  | .array js, data, es => js.length ≤ 2 ∧ HoldsResource js[0]? data ∧ HoldsErrors js[1]? es
  | _, _, _ => False

section Reading

variable {j : Json} {data : Option ResourceData} {es : List OperationError}

theorem holdsResource_some :
    HoldsResource (some j) data ↔ (Shape.optional ResourceData.shape).Means j data := by
  have hnull (resource : ResourceData) : ¬ ResourceData.shape.Means .null resource := by
    simp [ResourceData.shape, Shape.Means]
  by_cases hj : j = .null
  · subst hj
    cases data <;> simp [HoldsResource, Shape.Means]
  · have hsome : HoldsResource (some j) data ↔
        ∃ resource, ResourceData.shape.ofJson j = .ok resource ∧ data = some resource := by
      cases j <;> first | rfl | exact absurd rfl hj
    rw [hsome]
    cases data <;> simp [Shape.Means, hj, Shape.ofJson_eq_ok]

theorem holdsErrors_some :
    HoldsErrors (some j) es ↔ (Shape.list OperationError.shape).Means j es := by
  simp only [HoldsErrors, Shape.Means, Shape.ofJson_eq_ok]

/-- The fields of a response. -/
def fields : Fields (Option ResourceData × List OperationError × Unit) :=
  .defaulted "resource" (.optional ResourceData.shape) none <|
    .defaulted "errors" (.list OperationError.shape) [] .done

/-- A decoder finds the parts of a response. -/
theorem fields_means :
    (Shape.record "WireResponse" fields .ok id).Means j (data, es, ()) ↔ Parts j data es := by
  have hresource : some none = some data ↔ HoldsResource none data := by
    simp [HoldsResource, eq_comm]
  have herrors : some [] = some es ↔ HoldsErrors none es := by
    simp [HoldsErrors, eq_comm]
  unfold fields Fields.defaulted
  cases j with
  | object ms =>
    rw [Shape.record_means_object]
    simp only [Except.ok.injEq, exists_eq_right, Fields.Named, and_true,
      filter_filter_ne (show "errors" ≠ "resource" by decide)]
    rw [gives_iff_exists_sole hresource fun _ => holdsResource_some.symm,
      gives_iff_exists_sole herrors fun _ => holdsErrors_some.symm]
    rfl
  | array js =>
    rw [Shape.record_means_array]
    simp only [Except.ok.injEq, exists_eq_right]
    rcases js with _ | ⟨j, _ | ⟨j', _ | ⟨j'', js⟩⟩⟩
    · simp [Fields.Listed, Parts, hresource, herrors]
    · simp [Fields.Listed, Parts, holdsResource_some, herrors]
    · simp [Fields.Listed, Parts, holdsResource_some, holdsErrors_some]
    · simp [Fields.Listed, Parts]
  | _ => simp [Shape.Means, Parts]

/-- The response has these parts and no others. -/
theorem shape_means {r : OperationResponse} : shape.Means j r ↔ Parts j r.resource? r.errors := by
  unfold shape
  rw [Shape.record_means]
  constructor
  · rintro ⟨⟨data, es, _⟩, hfields, hparts⟩
    obtain ⟨rfl, rfl⟩ := ofParts_eq_ok.1 hparts
    exact fields_means.1 hfields
  · intro h
    exact ⟨_, fields_means.2 h, ofParts_eq_ok.2 ⟨rfl, rfl⟩⟩

/-- A document with the parts of a response is read as the response that they make up. -/
theorem decode_of_parts {n : Node} (hn : n.Holds j) (h : Parts j data es) :
    shape.decode n = (ofParts data es).mapError fun why => .complaint (.refused why) none :=
  Shape.decode_of_fields hn (fields_means.2 h)

theorem decode_of_parts_eq_ok {n : Node} (hn : n.Holds j) (h : Parts j data es)
    {r : OperationResponse} : shape.decode n = .ok r ↔ r.Carries data es := by
  rw [decode_of_parts hn h, mapError_eq_ok, ofParts_eq_ok]

end Reading

/-! ## The ways to make a response -/

/-- The response was made of these parts, in one of the ways that there are. -/
inductive Made : Option ResourceData → List OperationError → OperationResponse → Prop
  | success (resource : ResourceData) : Made (some resource) [] (.succeeded resource)
  | failure (e : OperationError) : Made none [e] (.failure e)
  | failedOne (e : OperationError) : Made none [e] (.failed (.one e))
  | failedList {es : List OperationError} {errors : OperationErrors}
      (h : OperationErrors.ofList? es = some errors) : Made none es (.failed errors)
  | decoded {n : Node} {j : Json} {data : Option ResourceData} {es : List OperationError}
      {r : OperationResponse} (hn : n.Holds j) (hparts : Parts j data es)
      (h : shape.decode n = .ok r) : Made data es r

/-- A response carries what it was made of. -/
theorem Made.carries {data : Option ResourceData} {es : List OperationError}
    {r : OperationResponse} (h : Made data es r) : r.Carries data es := by
  cases h with
  | success resource => exact ⟨rfl, rfl⟩
  | failure e => exact ⟨rfl, rfl⟩
  | failedOne e => exact ⟨rfl, rfl⟩
  | failedList h => exact ⟨rfl, OperationErrors.ofList?_eq_some.1 h⟩
  | decoded hn hparts h => exact (decode_of_parts_eq_ok hn hparts).1 h

/-! ## Responses in Json -/

/-- The Json value is an object with both parts, of which exactly one holds something. -/
def Shows (j : Json) : Prop :=
  ∃ ms resource es, j = .object ms ∧ Sole "resource" ms (some resource) ∧
    Sole "errors" ms (some (.array es)) ∧ Xor (resource ≠ .null) (es ≠ [])

/-- The parts stand in a response in their order, and sorted the other way round. -/
theorem write_shape (r : OperationResponse) :
    shape.write r = .object [("resource", (Shape.optional ResourceData.shape).write r.resource?),
      ("errors", .array (r.errors.map OperationError.shape.write))] := rfl

theorem toJson_shape (r : OperationResponse) :
    shape.toJson r =
      .object [("errors", .array (canonicalItems (r.errors.map OperationError.shape.write))),
        ("resource", ((Shape.optional ResourceData.shape).write r.resource?).canonical)] := rfl

/-- A response shows as much of each part as it carries. -/
theorem xor_write (r : OperationResponse) :
    Xor ((Shape.optional ResourceData.shape).write r.resource? ≠ .null)
      (r.errors.map OperationError.shape.write ≠ []) := by
  cases r with
  | succeeded resource => simp [Xor, resource?, errors, ResourceData.shape, Shape.write]
  | failed errors =>
    simp [Xor, resource?, OperationResponse.errors, Shape.write, errors.toList_ne_nil]

theorem shows_write (r : OperationResponse) : Shows (shape.write r) :=
  ⟨_, _, _, write_shape r, rfl, rfl, xor_write r⟩

theorem shows_toJson (r : OperationResponse) : Shows (shape.toJson r) := by
  refine ⟨_, _, _, toJson_shape r, rfl, rfl, ?_⟩
  rw [ne_eq, canonical_eq_null, ne_eq, canonicalItems_eq_map, List.map_eq_nil_iff]
  exact xor_write r

/-! ## Exclusive responses -/

/-- The response carries a resource or errors, never both and never neither, says which by its kind
and shows nothing else in Json. -/
structure Exclusive (r : OperationResponse) : Prop where
  oneOf : OneOf r.resource? r.errors
  success : r.isSuccess = true ↔ r.resource? ≠ none
  failure : r.isSuccess = false ↔ r.errors ≠ []
  first : ∀ errors, r = .failed errors → r.errors[0]? = some errors.first
  write : Shows (shape.write r)
  toJson : Shows (shape.toJson r)

theorem exclusive (r : OperationResponse) : r.Exclusive where
  oneOf := (oneOf_of_carries ⟨rfl, rfl⟩).1
  success := (oneOf_of_carries ⟨rfl, rfl⟩).2.1
  failure := (oneOf_of_carries ⟨rfl, rfl⟩).2.2
  first := by
    rintro errors rfl
    rfl
  write := r.shows_write
  toJson := r.shows_toJson

/-- **A response is exclusive, however it was made**: it carries the resource or the errors that it
was made of and nothing else. Of a document that holds a value it is decoded exactly if the value
has its parts, and parts that can be read make a response exactly if there is one of the two. -/
theorem made_exclusive :
    (∀ data es r, Made data es r → r.Carries data es ∧ r.Exclusive) ∧
      (∀ es, OperationErrors.ofList? es = none ↔ es = []) ∧
      (∀ n j r, n.Holds j → (shape.decode n = .ok r ↔ Parts j r.resource? r.errors)) ∧
      ∀ n j data es, n.Holds j → Parts j data es →
        ((∃ r, shape.decode n = .ok r) ↔ OneOf data es) := by
  refine ⟨fun data es r h => ⟨h.carries, r.exclusive⟩, fun es => OperationErrors.ofList?_eq_none,
    fun n j r hn => ?_, fun n j data es hn h => ?_⟩
  · rw [Shape.decode_eq_ok shape n j r hn, shape_means]
  · simp only [decode_of_parts_eq_ok hn h, ← ofParts_eq_ok]
    exact exists_ofParts

/-- The resource is null and there is an error without a target, both in their places. -/
theorem made_exclusive_positional :
    let j : Json := .array [.null, .array [.object [("code", .string "Wait"),
      ("message", .string "late")]]]
    Parts j none [⟨"Wait", "late", ""⟩] ∧ ∃ r, shape.decode (Node.ofJson j) = .ok r := by
  intro j
  have he : OperationError.shape.ofJson
      (.object [("code", .string "Wait"), ("message", .string "late")]) =
        .ok ⟨"Wait", "late", ""⟩ := by rfl
  have hparts : Parts j none [⟨"Wait", "late", ""⟩] :=
    ⟨by decide, rfl, _, rfl, .cons he .nil⟩
  have hone : OneOf none [(⟨"Wait", "late", ""⟩ : OperationError)] := by
    simp [OneOf, Xor]
  exact ⟨hparts, (made_exclusive.2.2.2 _ j _ _ (Node.holds_ofJson j) hparts).2 hone⟩

end OperationResponse

end Provision
