import Provision.Template.Document
import Provision.Proofs.Entries

/-!
# Declarations that leave something out

Reading a record meets its members in the order of the document. A field whose name no member has
keeps its default, and so does one that an array ends before. A resource that is declared without
properties has the properties null (`properties_of_omitted`).
-/

namespace Provision

open Json

namespace Json.Fields

/-! ## Fields that are not read -/

/-- No field of the name was read yet. -/
def Lacks (name : String) : {α : Type} → (fields : Fields α) → fields.Slots → Prop
  | _, .done, _ => True
  | _, .field (α := α) n _ _ _ rest, slots =>
    let (slot, others) : Option α × rest.Slots := slots
    (n = name → slot = none) ∧ rest.Lacks name others

theorem lacks_noSlots (name : String) :
    ∀ {α : Type} (fields : Fields α), fields.Lacks name fields.noSlots
  | _, .done => trivial
  | _, .field _ _ _ _ rest => ⟨fun _ => rfl, rest.lacks_noSlots name⟩

/-- A member of another name does not fill the field. -/
theorem lacks_fill {name : String} {m : Member Node} (hm : m.name ≠ name) :
    ∀ {α : Type} (fields : Fields α) {slots slots' : fields.Slots},
      fields.Lacks name slots → fields.fill slots m = .ok slots' → fields.Lacks name slots'
  | _, .done, _, _, _, _ => trivial
  | _, .field n s absent hidden rest, slots, slots', hl, h => by
    obtain ⟨slot, others⟩ := slots
    simp only [fill] at h
    by_cases hn : n = m.name
    · rw [if_pos hn] at h
      cases slot with
      | some _ => cases h
      | none =>
        obtain ⟨a, _, rfl⟩ := map_eq_ok.1 h
        exact ⟨fun hname => absurd (hn.symm.trans hname) hm, hl.2⟩
    · rw [if_neg hn] at h
      obtain ⟨others', ho, rfl⟩ := map_eq_ok.1 h
      exact ⟨hl.1, rest.lacks_fill hm hl.2 ho⟩

theorem lacks_foldlM {name : String} {α : Type} {fields : Fields α} :
    ∀ {members : List (Member Node)} {slots slots' : fields.Slots},
      (∀ m ∈ members, m.name ≠ name) → fields.Lacks name slots →
        members.foldlM fields.fill slots = .ok slots' → fields.Lacks name slots'
  | [], slots, slots', _, hl, h => by
    obtain rfl : slots = slots' := Except.ok.inj h
    exact hl
  | m :: members, slots, slots', hm, hl, h => by
    rw [List.foldlM_cons] at h
    obtain ⟨between, hfill, h⟩ := bind_eq_ok.1 h
    have hl' := fields.lacks_fill (hm m List.mem_cons_self) hl hfill
    exact lacks_foldlM (fun m' hm' => hm m' (List.mem_cons_of_mem _ hm')) hl' h

/-- In an array a field takes an item, or its default when there is none left. -/
theorem inOrder_field {α β : Type} {name expected : String} {s : Shape α} {absent : Option α}
    {hidden : α → Bool} {rest : Fields β} {taken : Nat} {items left : List Node} {ending : Ending}
    {a : α} {b : β}
    (h : (Fields.field name s absent hidden rest).inOrder expected taken items ending =
      .ok ((a, b), left)) :
    (items = [] → absent = some a) ∧
      rest.inOrder expected (taken + 1) items.tail ending = .ok (b, left) := by
  cases items with
  | nil =>
    simp only [inOrder] at h
    obtain ⟨stop, _, h⟩ := bind_eq_ok.1 h
    cases absent with
    | none => cases h
    | some a' =>
      obtain ⟨⟨b', left'⟩, hb, h⟩ := bind_eq_ok.1 h
      cases h
      exact ⟨fun _ => rfl, hb⟩
  | cons n items =>
    simp only [inOrder] at h
    obtain ⟨a', _, h⟩ := bind_eq_ok.1 h
    obtain ⟨⟨b', left'⟩, hb, h⟩ := bind_eq_ok.1 h
    cases h
    exact ⟨fun hnil => absurd hnil (List.cons_ne_nil n items), hb⟩

end Json.Fields

/-! ## Resources without properties -/

/-- The document of a resource that gives no properties: no member has this name, or the array ends
before them. -/
def OmitsProperties : Node → Prop
  | .object _ members _ => ∀ m ∈ members, m.name ≠ "properties"
  | .array _ items _ => items.length ≤ 3
  | _ => False

/-- A resource that is declared without properties has the properties null. -/
theorem properties_of_omitted {n : Node} {r : ResourceDeclaration} (hn : OmitsProperties n)
    (h : ResourceDeclaration.shape.decode n = .ok r) : r.properties = .null := by
  unfold ResourceDeclaration.shape at h
  cases n with
  | object start members ending =>
    rw [Shape.decode] at h
    obtain ⟨slots, hs, h⟩ := bind_eq_ok.1 h
    obtain ⟨stop, _, h⟩ := bind_eq_ok.1 h
    obtain ⟨a, hc, hr⟩ := bind_eq_ok.1 h
    have hl := Fields.lacks_foldlM hn (Fields.lacks_noSlots _ _) hs
    obtain ⟨s₁, s₂, s₃, s₄, s₅, _⟩ := slots
    obtain rfl : s₄ = none := hl.2.2.2.1 rfl
    obtain ⟨name, importAlias, type, properties, isExisting, _⟩ := a
    obtain rfl : ⟨name, importAlias, type, properties, isExisting⟩ = r := Except.ok.inj hr
    cases s₁ <;> cases s₂ <;> cases s₃ <;> cases s₅ <;> cases mapError_eq_ok.1 hc <;> rfl
  | array start items ending =>
    rw [Shape.decode] at h
    obtain ⟨⟨a, left⟩, ha, h⟩ := bind_eq_ok.1 h
    obtain ⟨_, _, hr⟩ := bind_eq_ok.1 h
    obtain ⟨name, importAlias, type, properties, isExisting, _⟩ := a
    obtain rfl : ⟨name, importAlias, type, properties, isExisting⟩ = r := Except.ok.inj hr
    -- every field takes an item, so that none is left for the fourth
    obtain ⟨-, ha⟩ := Fields.inOrder_field ha
    obtain ⟨-, ha⟩ := Fields.inOrder_field ha
    obtain ⟨-, ha⟩ := Fields.inOrder_field ha
    obtain ⟨hfourth, -⟩ := Fields.inOrder_field ha
    have hlen : items.length ≤ 3 := hn
    have hnone : items.tail.tail.tail = [] := by
      rw [List.eq_nil_iff_length_eq_zero]
      simp only [List.length_tail]
      omega
    exact (Option.some.inj (hfourth hnone)).symm
  | null _ | bool _ _ | number _ _ | string _ _ | broken _ _ => exact hn.elim

end Provision
