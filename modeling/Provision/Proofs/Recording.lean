import Mathlib.Logic.Relation
import Provision.Proofs.Envelopes
import Provision.Proofs.RoundTrips

/-!
# Recorded deployments

A recorded result gives the report of the result. Recording tells null from absent nowhere: a null
envelope comes back as none (`DeploymentResult.withoutNull`), and neither has an error to report.
The other way round, a recording that leaves out a field may spell it out
(`DeploymentResult.Spelled`, one field at a time), in the record of the deployment or in that of any
operation; a decoder finds the same result in both.

Spelling out rests on two facts about the fields of a record: a member of a name that is missing may
be added, if it says what its absence says (`Fields.named_insert`), and members may be replaced by
others that say the same (`Fields.named_congr`).
-/

namespace Provision

open Json

namespace Json

/-! ## Members that may be added or replaced -/

/-- A member of this name and form says no more than its absence. -/
def Fields.Spares (name : String) (form : Json) : {α : Type} → Fields α → Prop
  | _, .done => True
  | _, .field own s absent _ rest =>
    (own = name → ∀ a, s.Means form a ↔ absent = some a) ∧ rest.Spares name form

/-- Members of this name say the same with the one value and the other. -/
def Fields.Agrees (name : String) (j j' : Json) : {α : Type} → Fields α → Prop
  | _, .done => True
  | _, .field own s _ _ rest =>
    (own = name → ∀ a, s.Means j a ↔ s.Means j' a) ∧ rest.Agrees name j j'

/-- Members that correspond still do when they are picked alike, and may then be known better. -/
theorem forall₂_filter {α β : Type} {R S : α → β → Prop} {p : α → Bool} {q : β → Bool}
    (hpq : ∀ a b, R a b → p a = q b) (hS : ∀ a b, R a b → p a = true → S a b) {as : List α}
    {bs : List β} (h : List.Forall₂ R as bs) : List.Forall₂ S (as.filter p) (bs.filter q) := by
  induction h with
  | nil => exact .nil
  | @cons a b as bs hab _ ih =>
    by_cases hp : p a = true
    · rw [List.filter_cons_of_pos hp, List.filter_cons_of_pos (hpq a b hab ▸ hp)]
      exact .cons (hS a b hab hp) ih
    · rw [List.filter_cons_of_neg hp, List.filter_cons_of_neg (hpq a b hab ▸ hp)]
      exact ih

/-- Null says of an optional value that there is none. -/
theorem Shape.optional_means_null {α : Type} {s : Shape α} {o : Option α} :
    s.optional.Means .null o ↔ o = none := by
  cases o <;> simp [Means]

section Insertion

variable {name : String} {form : Json} {before after : List (String × Json)} {p : String → Bool}

theorem filter_insert_of_ne (hp : p name = false) :
    (before ++ (name, form) :: after).filter (p ·.1) = (before ++ after).filter (p ·.1) := by
  rw [List.filter_append, List.filter_append, List.filter_cons_of_neg (by simp [hp])]

theorem filter_insert_of_eq (hp : p name = true) :
    (before ++ (name, form) :: after).filter (p ·.1) =
      before.filter (p ·.1) ++ (name, form) :: after.filter (p ·.1) := by
  rw [List.filter_append, List.filter_cons_of_pos (by simp [hp])]

/-- A member of a missing name is then the only one of the name. -/
theorem filter_insert_own (hname : name ∉ (before ++ after).map Prod.fst) :
    (before ++ after).filter (·.1 = name) = [] ∧
      (before ++ (name, form) :: after).filter (·.1 = name) = [(name, form)] := by
  have hnone : (before ++ after).filter (·.1 = name) = [] := by
    rw [List.filter_eq_nil_iff]
    intro m hm hmn
    exact hname (List.mem_map.2 ⟨m, hm, by simpa using hmn⟩)
  refine ⟨hnone, ?_⟩
  rw [List.filter_append, List.append_eq_nil_iff] at hnone
  rw [filter_insert_of_eq (p := (· = name)) (by simp), hnone.1, hnone.2]
  rfl

end Insertion

/-- A record is the same with one member more that says what its absence says. -/
theorem Fields.named_insert {name : String} {form : Json} :
    ∀ {α : Type} {fields : Fields α}, fields.Spares name form →
      ∀ {before after : List (String × Json)}, name ∉ (before ++ after).map Prod.fst →
        ∀ {a : α}, fields.Named (before ++ after) a ↔
          fields.Named (before ++ (name, form) :: after) a
  | _, .done, _, _, _, _, _ => Iff.rfl
  | _, .field own s absent _ rest, h, before, after, hname, (a, b) => by
    obtain ⟨hown, hrest⟩ := h
    rw [Named, Named]
    by_cases hne : name = own
    · subst hne
      obtain ⟨hnone, hone⟩ : (before ++ after).filter (·.1 = name) = [] ∧
          (before ++ (name, form) :: after).filter (·.1 = name) = [(name, form)] :=
        filter_insert_own hname
      rw [hone, hnone, filter_insert_of_ne (p := (· ≠ name)) (by simp)]
      exact and_congr_left fun _ => (hown rfl a).symm
    · have hothers : name ∉ ((before ++ after).filter (·.1 ≠ own)).map Prod.fst := fun hmem =>
        hname ((List.filter_sublist.map Prod.fst).subset hmem)
      have hsplit : (before ++ after).filter (·.1 ≠ own) =
          before.filter (·.1 ≠ own) ++ after.filter (·.1 ≠ own) := List.filter_append ..
      rw [hsplit] at hothers
      rw [filter_insert_of_ne (p := (· = own)) (by simpa using hne),
        filter_insert_of_eq (p := (· ≠ own)) (by simpa using hne), hsplit]
      exact and_congr_right fun _ => named_insert hrest hothers

theorem gives_congr {α : Type} {means : Json → α → Prop} {absent : Option α}
    {ms ms' : List (String × Json)}
    (h : List.Forall₂ (fun m m' => ∀ a, means m.2 a ↔ means m'.2 a) ms ms') {a : α} :
    Gives means absent ms a ↔ Gives means absent ms' a := by
  rcases h with _ | ⟨hm, _ | ⟨hm', hms⟩⟩
  · exact Iff.rfl
  · exact hm a
  · exact Iff.rfl

theorem Fields.agrees_refl (name : String) (j : Json) : ∀ {α : Type} (fields : Fields α),
    fields.Agrees name j j
  | _, .done => trivial
  | _, .field _ _ _ _ rest => ⟨fun _ _ => Iff.rfl, agrees_refl name j rest⟩

/-- A record is the same with other members that say the same. -/
theorem Fields.named_congr : ∀ {α : Type} {fields : Fields α} {ms ms' : List (String × Json)},
    List.Forall₂ (fun m m' => m'.1 = m.1 ∧ fields.Agrees m.1 m.2 m'.2) ms ms' →
      ∀ {a : α}, fields.Named ms a ↔ fields.Named ms' a
  | _, .done, _, _, _, _ => Iff.rfl
  | _, .field own s absent _ rest, ms, ms', h, (a, b) => by
    have hown : List.Forall₂ (fun m m' => ∀ a, s.Means m.2 a ↔ s.Means m'.2 a)
        (ms.filter (·.1 = own)) (ms'.filter (·.1 = own)) :=
      forall₂_filter (fun m m' hm => by rw [hm.1])
        (fun m m' hm hp => hm.2.1 (of_decide_eq_true hp).symm) h
    have hrest : List.Forall₂ (fun m m' => m'.1 = m.1 ∧ rest.Agrees m.1 m.2 m'.2)
        (ms.filter (·.1 ≠ own)) (ms'.filter (·.1 ≠ own)) :=
      forall₂_filter (fun m m' hm => by rw [hm.1]) (fun m m' hm _ => ⟨hm.1, hm.2.2⟩) h
    rw [Named, Named]
    exact and_congr (gives_congr hown) (named_congr hrest)

/-- A record is the same with another member of a name that says the same. -/
theorem Fields.named_replace {α : Type} {fields : Fields α} {name : String} {j j' : Json}
    (h : fields.Agrees name j j') {before after : List (String × Json)} {a : α} :
    fields.Named (before ++ (name, j) :: after) a ↔
      fields.Named (before ++ (name, j') :: after) a := by
  have hsame (ms : List (String × Json)) :
      List.Forall₂ (fun m m' => m'.1 = m.1 ∧ fields.Agrees m.1 m.2 m'.2) ms ms :=
    List.forall₂_same.2 fun m _ => ⟨rfl, Fields.agrees_refl m.1 m.2 fields⟩
  exact Fields.named_congr (List.rel_append (hsame before)
    (.cons (a := (name, j)) (b := (name, j')) ⟨rfl, h⟩ (hsame after)))

end Json

/-- What is true of every value that comes back may be said of the one restored. -/
theorem Json.Shape.Restores.mono {α : Type} {s : Shape α} {a : α} {P Q : α → Prop}
    (hr : s.Restores a P) (h : ∀ b, P b → Q b) : s.Restores a Q where
  value := hr.value.imp fun b hb => ⟨hb.1, h b hb.2⟩
  text hd hi := (hr.text hd hi).imp fun b hb => ⟨hb.1, h b hb.2⟩
  sortedText hd hi := (hr.sortedText hd hi).imp fun b hb => ⟨hb.1, h b hb.2⟩

/-! ## Null and absent in reports -/

/-- What a report makes of an envelope, it makes of none what it makes of null. -/
theorem bind_unlessNull {α : Type} {f : Json → Option α} (hf : f .null = none) (o : Option Json) :
    (unlessNull o).bind f = o.bind f := by
  unfold unlessNull
  split
  · exact hf.symm
  · rfl

theorem OperationRecord.report_withoutNull (r : OperationRecord) :
    r.withoutNull.report = r.report := by
  unfold report
  show OperationReport.mk _ _ ((unlessNull r.status).bind _) = _
  rw [bind_unlessNull rfl]
  rfl

/-- A null envelope reports as little as none. -/
theorem DeploymentResult.report_withoutNull (r : DeploymentResult) :
    r.withoutNull.report = r.report := by
  have hoperations : r.withoutNull.operations.map OperationRecord.report =
      r.operations.map OperationRecord.report := by
    show (r.operations.map OperationRecord.withoutNull).map _ = _
    rw [List.map_map]
    exact List.map_congr_left fun o _ => o.report_withoutNull
  have herror : (r.withoutNull.error.bind fun envelope => reportError (Envelope.error? envelope)) =
      r.error.bind fun envelope => reportError (Envelope.error? envelope) :=
    bind_unlessNull rfl r.error
  unfold report
  rw [hoperations, herror]
  rfl

namespace DeploymentResult

theorem orderless_shape : shape.Orderless :=
  ⟨trivial, Shape.orderless_table DeploymentOutput.orderless_shape, trivial,
    OperationRecord.orderless_shape, trivial⟩

/-- A result comes back with no envelope for one that is null. -/
theorem restores {r : DeploymentResult} (h : r.Sorted) :
    shape.Restores r (r.withoutNull = ·) := by
  have hproper : shape.Proper r.withoutNull := by
    refine proper_shape h.withoutNull (unlessNull_ne _) fun o ho => ?_
    obtain ⟨o', -, rfl⟩ := List.mem_map.1 ho
    exact unlessNull_ne _
  exact (Shape.restores_of_proper lawful_shape orderless_shape hproper).congr
    (write_withoutNull r).symm

end DeploymentResult

/-! ## Absent fields spelled out -/

/-- One absent field of the record is spelled out as null. -/
inductive OperationRecord.Spelled : Json → Json → Prop
  | member {name : String} (hname : name = "state" ∨ name = "operationStatus")
      (before after : List (String × Json)) (habsent : name ∉ (before ++ after).map Prod.fst) :
      Spelled (.object (before ++ after)) (.object (before ++ (name, .null) :: after))
  | item {items : List Json} (hlength : items.length = 1 ∨ items.length = 2) :
      Spelled (.array items) (.array (items ++ [.null]))

/-- The forms in which the absent fields of a result may be spelled out. -/
def DeploymentResult.forms : List (String × Json) :=
  [("deploymentState", .null), ("outputs", .null), ("deploymentError", .null),
    ("operations", .array [])]

/-- One absent field of the result or of one of its operations is spelled out. -/
inductive DeploymentResult.Spelled : Json → Json → Prop
  | member {name : String} {form : Json} (hform : (name, form) ∈ forms)
      (before after : List (String × Json)) (habsent : name ∉ (before ++ after).map Prod.fst) :
      Spelled (.object (before ++ after)) (.object (before ++ (name, form) :: after))
  | operation {o o' : Json} (ho : OperationRecord.Spelled o o')
      (before after : List (String × Json)) (first last : List Json) :
      Spelled (.object (before ++ ("operations", .array (first ++ o :: last)) :: after))
        (.object (before ++ ("operations", .array (first ++ o' :: last)) :: after))

/-- A record says the same with one field spelled out. -/
theorem OperationRecord.Spelled.means {j j' : Json} (h : Spelled j j') (r : OperationRecord) :
    shape.Means j r ↔ shape.Means j' r := by
  unfold shape
  cases h with
  | member hname before after habsent =>
    rw [Shape.record_means_object, Shape.record_means_object]
    refine exists_congr fun a => and_congr_left fun _ => Fields.named_insert ?_ habsent
    rcases hname with rfl | rfl <;>
      simp [Fields.Spares, Fields.required, Fields.defaulted, Shape.optional_means_null, eq_comm]
  | @item items hlength =>
    rw [Shape.record_means_array, Shape.record_means_array]
    rcases items with _ | ⟨name, _ | ⟨state, _ | ⟨x, items⟩⟩⟩
    · simp at hlength
    · simp [Fields.Listed, Fields.required, Fields.defaulted, Shape.optional_means_null]
    · simp [Fields.Listed, Fields.required, Fields.defaulted, Shape.optional_means_null]
    · simp at hlength

namespace DeploymentResult

/-- A list of operations says the same with a field of one of them spelled out. -/
theorem operations_means {o o' : Json} (ho : OperationRecord.Spelled o o') (first last : List Json)
    (operations : List OperationRecord) :
    (Shape.list OperationRecord.shape).Means (.array (first ++ o :: last)) operations ↔
      (Shape.list OperationRecord.shape).Means (.array (first ++ o' :: last)) operations := by
  have hsame (js : List Json) : List.Forall₂
      (fun j j' => ∀ r, OperationRecord.shape.Means j r ↔ OperationRecord.shape.Means j' r) js js :=
    List.forall₂_same.2 fun j _ r => Iff.rfl
  have hitems := List.rel_append (hsame first) (.cons ho.means (hsame last))
  simp only [Shape.Means, Json.array.injEq, exists_eq_left']
  exact forall₂_congr_left (fun j j' r hj => hj r) hitems

/-- A result says the same with one field spelled out. -/
theorem Spelled.means {j j' : Json} (h : Spelled j j') (r : DeploymentResult) :
    shape.Means j r ↔ shape.Means j' r := by
  unfold shape
  cases h with
  | member hform before after habsent =>
    rw [Shape.record_means_object, Shape.record_means_object]
    refine exists_congr fun a => and_congr_left fun _ => Fields.named_insert ?_ habsent
    have hempty (operations : List OperationRecord) :
        (Shape.list OperationRecord.shape).Means (.array []) operations ↔ [] = operations := by
      simp [Shape.Means, eq_comm]
    simp only [forms, List.mem_cons, Prod.mk.injEq, List.not_mem_nil, or_false] at hform
    rcases hform with ⟨rfl, rfl⟩ | ⟨rfl, rfl⟩ | ⟨rfl, rfl⟩ | ⟨rfl, rfl⟩ <;>
      simp [Fields.Spares, Fields.defaulted, Shape.optional_means_null, hempty, eq_comm]
  | operation ho before after first last =>
    rw [Shape.record_means_object, Shape.record_means_object]
    refine exists_congr fun a => and_congr_left fun _ => Fields.named_replace ?_
    simp only [Fields.Agrees, Fields.defaulted]
    exact ⟨by simp, by simp, by simp, fun _ => operations_means ho first last, trivial⟩

/-- However many fields are spelled out, the result is the same. -/
theorem means_of_spelled {j j' : Json} (h : Relation.ReflTransGen Spelled j j')
    (r : DeploymentResult) : shape.Means j r ↔ shape.Means j' r := by
  induction h with
  | refl => exact Iff.rfl
  | tail _ hlast ih => exact ih.trans (hlast.means r)

/-! ## The report of a recording -/

/-- The recording is that of a result with this report. -/
def Recorded (j : Json) (p : Report) : Prop := ∃ r, shape.ofJson j = .ok r ∧ r.report = p

/-- **Recording a deployment does not change its report**: not by way of Json, not by way of text,
and not by spelling out whatever fields the recording leaves out. -/
theorem report_recorded :
    (∀ r : DeploymentResult, r.Sorted → shape.Restores r fun r' => r'.report = r.report) ∧
      ∀ j j' p, Relation.ReflTransGen Spelled j j' → (Recorded j p ↔ Recorded j' p) := by
  refine ⟨fun r h => ?_, fun j j' p h => ?_⟩
  · refine (restores h).mono ?_
    rintro r' rfl
    exact r.report_withoutNull
  · unfold Recorded
    simp only [Shape.ofJson_eq_ok, means_of_spelled h]

/-- Null envelopes are reported as none, and so is the status that a recording leaves out. -/
theorem report_recorded_nulls :
    let r : DeploymentResult := ⟨none, none, some .null, [⟨"r", none, some .null⟩]⟩
    let bare := Json.object [("resourceSymbolicName", .string "r")]
    let spelled := Json.object [("operationStatus", .null), ("resourceSymbolicName", .string "r")]
    r.Sorted ∧ shape.Restores r (fun r' => r'.report = r.report) ∧
      Recorded (.object [("operations", .array [bare])]) r.report ∧
        Recorded (.object [("outputs", .null), ("operations", .array [spelled])]) r.report := by
  intro r bare spelled
  have hsorted : r.Sorted := by
    refine ⟨?_, ?_, ?_⟩
    · rintro outputs ⟨⟩
    · rintro j ⟨rfl⟩
      trivial
    · intro o ho
      obtain rfl := List.mem_singleton.1 ho
      rintro j ⟨rfl⟩
      trivial
  have hbare : Recorded (.object [("operations", .array [bare])]) r.report := ⟨_, rfl, rfl⟩
  have hstatus : Spelled (.object [("operations", .array [bare])])
      (.object [("operations", .array [spelled])]) :=
    .operation (.member (.inr rfl) [] _ (by decide)) [] [] [] []
  have houtputs : Spelled (.object [("operations", .array [spelled])])
      (.object [("outputs", .null), ("operations", .array [spelled])]) :=
    .member (by simp [forms]) [] _ (by decide)
  have hchain := (Relation.ReflTransGen.single hstatus).tail houtputs
  exact ⟨hsorted, report_recorded.1 r hsorted, hbare, (report_recorded.2 _ _ _ hchain).1 hbare⟩

end DeploymentResult

end Provision
