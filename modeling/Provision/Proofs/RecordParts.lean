import Provision.Proofs.Declarations
import Provision.Proofs.Lossless

/-!
# Parts of a document

A record reads each field from a part of its document that is the field's own: from an object the
member of its name, from an array the item in its place (`Node.part?`). What has no part has its
default. A table reads the entry of a name from the last member that has the name (`Node.entry?`), a
list its items in order (`Node.items`). So what is read under a name depends on nothing but what
stands there, also where other parts of the document hold no value at all.
-/

namespace Provision

namespace Json

/-! ## Fields -/

/-- The part of the document of a record that is a field's own. -/
def Node.part? : Node → String → Nat → Option Node
  | .object _ members _, name, _ => (members.find? (·.name = name)).map Member.value
  | .array _ items _, _, place => items[place]?
  | _, _, _ => none

/-- The value is read from the part, if there is one, and is the default otherwise. -/
def Shape.ReadFrom {α : Type} (s : Shape α) (absent : Option α) (part : Option Node) (a : α) :
    Prop :=
  match part with
  | some n => s.decode n = .ok a
  | none => absent = some a

/-- Each field is read from its own part. -/
def Fields.ReadFrom : {α : Type} → Fields α → (String → Nat → Option Node) → Nat → α → Prop
  | _, .done, _, _, _ => True
  | _, .field name s absent _ rest, part, place, (a, b) =>
    s.ReadFrom absent (part name place) a ∧ rest.ReadFrom part (place + 1) b

section Fields

variable {α β : Type} {part part' : String → Nat → Option Node} {place : Nat}

/-- What is read depends on the parts of the fields only. -/
theorem Fields.ReadFrom.congr : ∀ {α : Type} {fields : Fields α} {place : Nat} {a : α},
    (∀ name ∈ fields.names, ∀ i, part name i = part' name i) →
      fields.ReadFrom part place a → fields.ReadFrom part' place a
  | _, .done, _, _, _, _ => trivial
  | _, .field name s absent hidden rest, place, (a, b), hpart, h => by
    obtain ⟨ha, hb⟩ := h
    refine ⟨?_, hb.congr fun name' hname' => hpart name' (List.mem_cons_of_mem _ hname')⟩
    rwa [← hpart name List.mem_cons_self]

/-- The fields that are gathered from the members of an object. -/
theorem Fields.readFrom_of_fill : ∀ {α : Type} {fields : Fields α} {members : List (Member Node)}
    {place : Nat} {a : α}, fields.names.Nodup →
      (∃ slots, members.foldlM fields.fill fields.noSlots = .ok slots ∧
        fields.complete slots = .ok a) →
      fields.ReadFrom (fun name _ => (members.find? (·.name = name)).map Member.value) place a
  | _, .done, _, _, _, _, _ => trivial
  | _, .field name s absent hidden rest, members, place, (a, b), hn, h => by
    obtain ⟨hname, hn⟩ := List.nodup_cons.1 hn
    obtain ⟨⟨slot, ht, ha⟩, hothers⟩ := exists_complete_field.1 h
    constructor
    · show s.ReadFrom absent ((members.find? (·.name = name)).map Member.value) a
      rw [← List.head?_filter]
      generalize members.filter (·.name = name) = own at ht
      rcases own with _ | ⟨m, _ | ⟨m', own⟩⟩
      · obtain rfl : slot = none := ht
        exact ha
      · obtain ⟨a', ha', rfl⟩ := ht
        obtain rfl := Option.some.inj ha
        exact ha'
      · exact ht.elim
    · refine (readFrom_of_fill hn hothers).congr fun name' hname' _ => ?_
      rw [List.find?_filter]
      congr 2
      funext m
      by_cases hm : m.name = name'
      · have hne : name' ≠ name := by
          rintro rfl
          exact hname hname'
        simp [hm, hne]
      · simp [hm]

/-- The fields that are taken from the items of an array. -/
theorem Fields.readFrom_of_inOrder : ∀ {α : Type} {fields : Fields α} {expected : String}
    {items left : List Node} {ending : Ending} {place : Nat} {a : α},
      fields.inOrder expected place (items.drop place) ending = .ok (a, left) →
        fields.ReadFrom (fun _ i => items[i]?) place a
  | _, .done, _, _, _, _, _, _, _ => trivial
  | _, .field name s absent hidden rest, expected, items, left, ending, place, (a, b), h => by
    rcases Nat.lt_or_ge place items.length with hlt | hge
    · rw [List.drop_eq_getElem_cons hlt, inOrder] at h
      obtain ⟨a', ha', h⟩ := bind_eq_ok.1 h
      obtain ⟨⟨b', left'⟩, hb, h⟩ := bind_eq_ok.1 h
      cases h
      refine ⟨?_, readFrom_of_inOrder hb⟩
      show s.ReadFrom absent items[place]? a
      rw [List.getElem?_eq_getElem hlt]
      exact ha'
    · have hnone : ∀ i, place ≤ i → items.drop i = [] := fun i hi =>
        List.drop_eq_nil_of_le (Nat.le_trans hge hi)
      rw [hnone place (Nat.le_refl _)] at h
      obtain ⟨habsent, hb⟩ := inOrder_field h
      rw [List.tail_nil, ← hnone (place + 1) (Nat.le_succ _)] at hb
      refine ⟨?_, readFrom_of_inOrder hb⟩
      show s.ReadFrom absent items[place]? a
      rw [List.getElem?_eq_none hge]
      exact habsent rfl

/-- A record reads each field from its own part. -/
theorem Shape.readFrom_of_decode {name : String} {fields : Fields α} {build : α → Except String β}
    {parts : β → α} {n : Node} {b : β} (hn : fields.names.Nodup)
    (h : (Shape.record name fields build parts).decode n = .ok b) :
    ∃ a, build a = .ok b ∧ fields.ReadFrom n.part? 0 a := by
  cases n with
  | object start members ending =>
    rw [Shape.decode] at h
    obtain ⟨slots, hs, h⟩ := bind_eq_ok.1 h
    obtain ⟨stop, _, h⟩ := bind_eq_ok.1 h
    obtain ⟨a, ha, h⟩ := bind_eq_ok.1 h
    exact ⟨a, mapError_eq_ok.1 h, Fields.readFrom_of_fill hn ⟨slots, hs, mapError_eq_ok.1 ha⟩⟩
  | array start items ending =>
    rw [Shape.decode] at h
    obtain ⟨⟨a, left⟩, hitems, h⟩ := bind_eq_ok.1 h
    obtain ⟨_, _, h⟩ := bind_eq_ok.1 h
    exact ⟨a, mapError_eq_ok.1 h, Fields.readFrom_of_inOrder hitems⟩
  | null _ | bool _ _ | number _ _ | string _ _ | broken _ _ => cases h

end Fields

/-! ## Lists and tables -/

/-- The items of an array. -/
def Node.items : Node → List Node
  | .array _ items _ => items
  | _ => []

/-- The last member of a name in an object. -/
def Node.entry? : Node → String → Option Node
  | .object _ members _, name => ((members.filter (·.name = name)).getLast?).map Member.value
  | _, _ => none

section Containers

variable {α : Type} {s : Shape α} {n : Node}

/-- A list is read item by item. -/
theorem Shape.forall₂_of_decode_list {as : List α} (h : s.list.decode n = .ok as) :
    List.Forall₂ (fun m a => s.decode m = .ok a) n.items as := by
  cases n with
  | array start items ending =>
    rw [Shape.decode] at h
    obtain ⟨as', has, h⟩ := bind_eq_ok.1 h
    obtain ⟨_, _, h⟩ := bind_eq_ok.1 h
    obtain rfl := Except.ok.inj h
    exact mapM_eq_ok_iff.1 has
  | object _ _ _ | null _ | bool _ _ | number _ _ | string _ _ | broken _ _ => cases h

/-- Lists that correspond have last items that do. -/
theorem rel_getLast? {β γ : Type} {R : β → γ → Prop} {bs : List β} {cs : List γ}
    (h : List.Forall₂ R bs cs) : Option.Rel R bs.getLast? cs.getLast? := by
  rw [← List.head?_reverse, ← List.head?_reverse]
  have hrev := List.rel_reverse h
  generalize bs.reverse = bs at hrev
  generalize cs.reverse = cs at hrev
  cases hrev with
  | nil => exact .none
  | cons hlast _ => exact .some hlast

/-- A table is read name by name. -/
theorem Shape.rel_of_decode_table {t : Table α} (h : (Shape.table s).decode n = .ok t)
    (name : String) : Option.Rel (fun m a => s.decode m = .ok a) (n.entry? name) (t.get? name) := by
  unfold Shape.table at h
  rw [Shape.decode] at h
  obtain ⟨es, hentries, rfl⟩ := map_eq_ok.1 h
  rw [Table.get?_ofList]
  cases n with
  | object start members ending =>
    rw [Shape.decode] at hentries
    obtain ⟨es', hes, hentries⟩ := bind_eq_ok.1 hentries
    obtain ⟨_, _, hentries⟩ := bind_eq_ok.1 hentries
    obtain rfl := Except.ok.inj hentries
    have hall := mapM_keyed_eq_ok.1 hes
    have hown := List.rel_filter (p := (·.name = name)) (q := (·.1 = name))
      (fun m e he => by simp [he.1]) hall
    have hlast := rel_getLast? hown
    show Option.Rel _ (((members.filter (·.name = name)).getLast?).map Member.value) _
    generalize (members.filter (·.name = name)).getLast? = x at hlast
    generalize (es'.filter (·.1 = name)).getLast? = y at hlast
    cases hlast with
    | none => exact .none
    | some he => exact .some he.2
  | array _ _ _ | null _ | bool _ _ | number _ _ | string _ _ | broken _ _ => cases hentries

/-- A list that may be left out is read item by item from its part. -/
theorem Shape.ReadFrom.forall₂ {part : Option Node} {as : List α}
    (h : s.list.ReadFrom (some []) part as) :
    List.Forall₂ (fun m a => s.decode m = .ok a) ((part.map Node.items).getD []) as := by
  cases part with
  | some n => exact forall₂_of_decode_list h
  | none =>
    obtain rfl := Option.some.inj h
    exact .nil

/-- A table that may be left out is read name by name from its part. -/
theorem Shape.ReadFrom.rel {part : Option Node} {t : Table α}
    (h : (Shape.table s).ReadFrom (some ∅) part t) (name : String) :
    Option.Rel (fun m a => s.decode m = .ok a) (part.bind fun n => n.entry? name)
      (t.get? name) := by
  cases part with
  | some n => exact rel_of_decode_table h name
  | none =>
    obtain rfl := Option.some.inj h
    exact .none

theorem rel_imp {β γ : Type} {R S : β → γ → Prop} (h : ∀ b c, R b c → S b c) :
    ∀ {x : Option β} {y : Option γ}, Option.Rel R x y → Option.Rel S x y
  | _, _, .none => .none
  | _, _, .some hR => .some (h _ _ hR)

end Containers

end Json

end Provision
