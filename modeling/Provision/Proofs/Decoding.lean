import Provision.Json.Shape
import Provision.Proofs.Entries

/-!
# What decoding accepts

`Shape.Means` tells which values a Json value stands for: it follows the shape and knows neither
documents nor refusals nor the order of the members. A record takes each of its fields from the
members of its name, of which there may be one at most, and leaves all other members alone; of an
array it takes the fields in order and leaves nothing over.

A document holds a value when it was read to its end (`Node.Holds`). A decoder succeeds on such a
document with exactly those values that the Json value stands for (`Shape.decode_eq_ok`), so texts
and values are read alike.
-/

namespace Provision.Json

/-! ## Documents that were read to their end -/

mutual

/-- The document holds the value, with the members of objects in their order. -/
inductive Node.Holds : Node → Json → Prop
  | null (s : Span) : Node.Holds (.null s) .null
  | bool (s : Span) (b : Bool) : Node.Holds (.bool s b) (.bool b)
  | number (s : Span) (n : Number) : Node.Holds (.number s n) (.number n)
  | string (s : Span) (t : String) : Node.Holds (.string s t) (.string t)
  | array {items : List Node} {js : List Json} (start stop : Nat)
      (h : List.Forall₂ Node.Holds items js) :
      Node.Holds (.array start items (.closed stop)) (.array js)
  | object {members : List (Member Node)} {ms : List (String × Json)} (start stop : Nat)
      (h : List.Forall₂ Member.Holds members ms) :
      Node.Holds (.object start members (.closed stop)) (.object ms)

/-- The member has the name and holds the value. -/
inductive Member.Holds : Member Node → String × Json → Prop
  | mk {n : Node} {j : Json} (name : String) (place : Nat) (h : Node.Holds n j) :
      Member.Holds ⟨name, place, n, none⟩ (name, j)

end

theorem Member.Holds.name {m : Member Node} {e : String × Json} (h : m.Holds e) :
    m.name = e.1 := by
  cases h
  rfl

theorem Member.Holds.value {m : Member Node} {e : String × Json} (h : m.Holds e) :
    m.value.Holds e.2 := by
  cases h
  assumption

theorem Member.Holds.unskippable {m : Member Node} {e : String × Json} (h : m.Holds e) :
    m.unskippable = none := by
  cases h
  rfl

mutual

/-- A value as a document holds the value. -/
theorem Node.holds_ofJson : ∀ j : Json, (Node.ofJson j).Holds j
  | .null => .null _
  | .bool b => .bool _ b
  | .number n => .number _ n
  | .string s => .string _ s
  | .array js => .array 0 0 (forall₂_itemsOfJson js)
  | .object ms => .object 0 0 (forall₂_membersOfJson ms)

theorem Node.forall₂_itemsOfJson : ∀ js : List Json,
    List.Forall₂ Node.Holds (Node.itemsOfJson js) js
  | [] => .nil
  | j :: js => .cons (holds_ofJson j) (forall₂_itemsOfJson js)

theorem Node.forall₂_membersOfJson : ∀ ms : List (String × Json),
    List.Forall₂ Member.Holds (Node.membersOfJson ms) ms
  | [] => .nil
  | (name, j) :: ms => .cons (.mk name 0 (holds_ofJson j)) (forall₂_membersOfJson ms)

end

mutual

/-- The value of a document has its members sorted. -/
theorem Node.Holds.toJson : ∀ {j : Json} {n : Node}, n.Holds j → n.toJson = .ok j.canonical
  | .null, _, .null _ => rfl
  | .bool _, _, .bool _ _ => rfl
  | .number _, _, .number _ _ => rfl
  | .string _, _, .string _ _ => rfl
  | .array js, _, .array _ _ h => by
    rw [Node.toJson, itemsToJson_of_holds h]
    rfl
  | .object ms, _, .object _ _ h => by
    rw [Node.toJson, membersToJson_of_holds h]
    rfl

theorem itemsToJson_of_holds : ∀ {js : List Json} {ns : List Node},
    List.Forall₂ Node.Holds ns js → Node.itemsToJson ns = .ok (canonicalItems js)
  | [], _, .nil => rfl
  | j :: js, _, .cons h hs => by
    rw [Node.itemsToJson, h.toJson, itemsToJson_of_holds hs]
    rfl

theorem membersToJson_of_holds : ∀ {ms done : List (String × Json)} {members : List (Member Node)},
    List.Forall₂ Member.Holds members ms →
      Node.membersToJson members done = .ok (canonicalMembers ms done)
  | [], _, _, .nil => rfl
  | (name, j) :: ms, done, _, .cons (.mk _ _ h) hs => by
    rw [Node.membersToJson, h.toJson]
    exact membersToJson_of_holds hs

end

/-! ## What a value stands for -/

/-- The members of one name give a field its value: there is one, or none when the field may be
absent. -/
def Gives {α : Type} (means : Json → α → Prop) (absent : Option α) :
    List (String × Json) → α → Prop
  | [], a => absent = some a
  | [m], a => means m.2 a
  | _, _ => False

mutual

/-- The Json value stands for the value. -/
def Shape.Means : {α : Type} → Shape α → Json → α → Prop
  | _, .string, j, s => j = .string s
  | _, .bool, j, b => j = .bool b
  | _, .natural64, j, n => j = .ofNat n
  | _, .int32, j, i => j = .ofInt32 i
  | _, .any, j, a => a = j.canonical
  | _, .optional _, j, none => j = .null
  | _, .optional s, j, some a => j ≠ .null ∧ s.Means j a
  | _, .list s, j, as => ∃ js, j = .array js ∧ List.Forall₂ s.Means js as
  | _, .entries s, j, as =>
    ∃ ms, j = .object ms ∧ List.Forall₂ (fun m e => e.1 = m.1 ∧ s.Means m.2 e.2) ms as
  | _, .view s into _, j, b => ∃ a, s.Means j a ∧ into a = b
  | _, .record _ fields build _, j, b =>
    ∃ a, ((∃ ms, j = .object ms ∧ fields.Named ms a) ∨ ∃ js, j = .array js ∧ fields.Listed js a) ∧
      build a = .ok b
termination_by structural _ s => s

/-- The members give the fields, each from those of its name. -/
def Fields.Named : {α : Type} → Fields α → List (String × Json) → α → Prop
  | _, .done, _, _ => True
  | _, .field name s absent _ rest, ms, (a, b) =>
    Gives s.Means absent (ms.filter (·.1 = name)) a ∧ rest.Named (ms.filter (·.1 ≠ name)) b
termination_by structural _ fields => fields

/-- The items give the fields in order; the last fields may be absent. -/
def Fields.Listed : {α : Type} → Fields α → List Json → α → Prop
  | _, .done, js, _ => js = []
  | _, .field _ _ absent _ rest, [], (a, b) => absent = some a ∧ rest.Listed [] b
  | _, .field _ s _ _ rest, j :: js, (a, b) => s.Means j a ∧ rest.Listed js b
termination_by structural _ fields => fields

end

section Record

variable {α β : Type} {name : String} {fields : Fields α} {build : α → Except String β}
  {parts : β → α} {b : β}

theorem Shape.record_means_object {ms : List (String × Json)} :
    (Shape.record name fields build parts).Means (.object ms) b ↔
      ∃ a, fields.Named ms a ∧ build a = .ok b := by
  simp [Shape.Means]

theorem Shape.record_means_array {js : List Json} :
    (Shape.record name fields build parts).Means (.array js) b ↔
      ∃ a, fields.Listed js a ∧ build a = .ok b := by
  simp [Shape.Means]

end Record

/-! ## Scalars -/

section Scalars

variable {n : Node} {j : Json}

theorem string_decode_eq_ok (h : n.Holds j) {t : String} :
    Shape.string.decode n = .ok t ↔ Shape.string.Means j t := by
  rw [Shape.decode, Shape.Means]
  cases h <;> simp [readScalar]

theorem bool_decode_eq_ok (h : n.Holds j) {b : Bool} :
    Shape.bool.decode n = .ok b ↔ Shape.bool.Means j b := by
  rw [Shape.decode, Shape.Means]
  cases h <;> simp [readScalar]

theorem natural64_decode_eq_ok (h : n.Holds j) {k : UInt64} :
    Shape.natural64.decode n = .ok k ↔ Shape.natural64.Means j k := by
  rw [Shape.decode, Shape.Means, ofNat]
  cases h with
  | number s x => cases x <;> simp [readNatural64]
  | _ => simp [readNatural64]

theorem ofInt32_eq_natural {k : UInt64} {i : Int32} :
    Json.number (.natural k) = .ofInt32 i ↔ k.toNat < 0x80000000 ∧ Int32.ofNat k.toNat = i := by
  have hlt := i.toInt_lt
  have hle := i.le_toInt
  unfold ofInt32
  cases hi : i.toInt with
  | ofNat n =>
    have hn : n < 0x80000000 := by
      rw [hi] at hlt
      exact Int.ofNat_lt.1 hlt
    have hk : k = n.toUInt64 ↔ k.toNat = n := by
      rw [← UInt64.toNat_inj, Nat.toUInt64, UInt64.toNat_ofNat_of_lt' (Nat.lt_trans hn (by decide))]
    rw [Json.number.injEq, Number.natural.injEq, hk]
    constructor
    · rintro rfl
      refine ⟨hn, Int32.toInt_inj.1 ?_⟩
      rw [Int32.toInt_ofNat_of_lt hn, hi]
      rfl
    · rintro ⟨hk, rfl⟩
      rw [Int32.toInt_ofNat_of_lt hk] at hi
      exact Int.ofNat.inj hi
  | negSucc n =>
    refine iff_of_false (by simp [Number.negSucc]) ?_
    rintro ⟨hk, rfl⟩
    rw [Int32.toInt_ofNat_of_lt hk] at hi
    cases hi

theorem ofInt32_eq_negative {k : Fin 0x8000000000000000} {i : Int32} :
    Json.number (.negative k) = .ofInt32 i ↔
      k.val < 0x80000000 ∧ Int32.ofInt (Int.negSucc k.val) = i := by
  have hlt := i.toInt_lt
  have hle := i.le_toInt
  have hofInt (n : Nat) (hn : n < 0x80000000) :
      (Int32.ofInt (Int.negSucc n)).toInt = Int.negSucc n :=
    Int32.toInt_ofInt_of_le (by omega) (by omega)
  unfold ofInt32
  cases hi : i.toInt with
  | ofNat n =>
    refine iff_of_false (by simp) ?_
    rintro ⟨hk, rfl⟩
    rw [hofInt _ hk] at hi
    cases hi
  | negSucc n =>
    have hn : n < 0x80000000 := by omega
    have hk : k = Fin.ofNat 0x8000000000000000 n ↔ k.val = n := by
      rw [Fin.ext_iff, Fin.val_ofNat, Nat.mod_eq_of_lt (by omega)]
    show Json.number (.negative k) = .number (.negative (Fin.ofNat 0x8000000000000000 n)) ↔ _
    rw [Json.number.injEq, Number.negative.injEq, hk]
    constructor
    · rintro rfl
      refine ⟨hn, Int32.toInt_inj.1 ?_⟩
      rw [hofInt _ hn, hi]
    · rintro ⟨hk, rfl⟩
      rw [hofInt _ hk] at hi
      exact Int.negSucc.inj hi

theorem int32_decode_eq_ok (h : n.Holds j) {i : Int32} :
    Shape.int32.decode n = .ok i ↔ Shape.int32.Means j i := by
  rw [Shape.decode, Shape.Means]
  cases h with
  | number s x =>
    cases x with
    | natural k =>
      rw [ofInt32_eq_natural]
      simp only [readInt32]
      split_ifs with hk <;> simp [hk]
    | negative k =>
      rw [ofInt32_eq_negative]
      simp only [readInt32]
      split_ifs with hk <;> simp [hk]
    | double x =>
      have hne : Json.number (.double x) ≠ .ofInt32 i := by
        unfold ofInt32
        split <;> simp [Number.negSucc]
      simp [readInt32, hne]
  | _ =>
    unfold ofInt32
    split <;> simp [readInt32]

end Scalars

/-! ## Fields -/

section Fill

variable {α β : Type} {name : String} {s : Shape α} {absent : Option α} {hidden : α → Bool}
  {rest : Fields β}

/-- The slots of a record whose first field has the given slot. -/
def Fields.slots (slot : Option α) (others : rest.Slots) :
    (Fields.field name s absent hidden rest).Slots := (slot, others)

theorem Fields.slots_inj {slot slot' : Option α} {others others' : rest.Slots} :
    (Fields.slots slot others : (Fields.field name s absent hidden rest).Slots) =
      Fields.slots slot' others' ↔ slot = slot' ∧ others = others' := Prod.mk.injEq .. ▸ Iff.rfl

theorem Fields.exists_slots {p : (Fields.field name s absent hidden rest).Slots → Prop} :
    (∃ slots, p slots) ↔ ∃ slot others, p (Fields.slots slot others) := Prod.exists

/-- What becomes of the slot of a field when the members of its name come by. -/
def Shape.Takes (s : Shape α) : Option α → List (Member Node) → Option α → Prop
  | slot, [], slot' => slot' = slot
  | none, [m], slot' => ∃ a, s.decode m.value = .ok a ∧ slot' = some a
  | _, _, _ => False

theorem Shape.takes_cons_none {m : Member Node} {ms : List (Member Node)} {slot' : Option α} :
    s.Takes none (m :: ms) slot' ↔ ∃ a, s.decode m.value = .ok a ∧ s.Takes (some a) ms slot' := by
  cases ms <;> simp [Takes]

theorem Shape.takes_cons_some {a : α} {m : Member Node} {ms : List (Member Node)}
    {slot' : Option α} : ¬ s.Takes (some a) (m :: ms) slot' := by
  simp [Takes]

theorem Fields.fill_slots {m : Member Node} {slot : Option α} {others : rest.Slots} :
    (Fields.field name s absent hidden rest).fill (slots slot others) m =
      if name = m.name then
        match slot with
        | some _ => .error (.complaint (.duplicateField name) (some m.place))
        | none => (s.decode m.value).map fun a => slots (some a) others
      else (rest.fill others m).map (slots slot) := rfl

theorem Fields.fill_own {m : Member Node} (hm : m.name = name) {slot : Option α}
    {others : rest.Slots} {slots' : (Fields.field name s absent hidden rest).Slots} :
    (Fields.field name s absent hidden rest).fill (slots slot others) m = .ok slots' ↔
      slot = none ∧ ∃ a, s.decode m.value = .ok a ∧ slots (some a) others = slots' := by
  rw [fill_slots, if_pos hm.symm]
  cases slot with
  | none => simp only [map_eq_ok, true_and]
  | some a => simp

theorem Fields.fill_other {m : Member Node} (hm : m.name ≠ name) {slot : Option α}
    {others : rest.Slots} {slots' : (Fields.field name s absent hidden rest).Slots} :
    (Fields.field name s absent hidden rest).fill (slots slot others) m = .ok slots' ↔
      ∃ others', rest.fill others m = .ok others' ∧ slots slot others' = slots' := by
  rw [fill_slots, if_neg (Ne.symm hm)]
  exact map_eq_ok

/-- A field takes the members of its name and leaves the others to the other fields. -/
theorem Fields.foldlM_fill {members : List (Member Node)} {slot slot' : Option α}
    {others others' : rest.Slots} :
    members.foldlM (Fields.field name s absent hidden rest).fill (slots slot others) =
        .ok (slots slot' others') ↔
      s.Takes slot (members.filter (·.name = name)) slot' ∧
        (members.filter (·.name ≠ name)).foldlM rest.fill others = .ok others' := by
  induction members generalizing slot others with
  | nil => simp [Shape.Takes, pure, Except.pure, slots_inj, eq_comm]
  | cons m members ih =>
    rw [List.foldlM_cons, bind_eq_ok]
    by_cases hm : m.name = name
    · rw [List.filter_cons_of_pos (by simpa using hm), List.filter_cons_of_neg (by simpa using hm)]
      simp only [fill_own hm]
      cases slot with
      | some a => simp [Shape.takes_cons_some]
      | none =>
        rw [Shape.takes_cons_none]
        constructor
        · rintro ⟨_, ⟨-, a, ha, rfl⟩, h⟩
          obtain ⟨ht, ho⟩ := ih.1 h
          exact ⟨⟨a, ha, ht⟩, ho⟩
        · rintro ⟨⟨a, ha, ht⟩, ho⟩
          exact ⟨_, ⟨rfl, a, ha, rfl⟩, ih.2 ⟨ht, ho⟩⟩
    · rw [List.filter_cons_of_neg (by simpa using hm), List.filter_cons_of_pos (by simpa using hm),
        List.foldlM_cons, bind_eq_ok]
      simp only [fill_other hm]
      constructor
      · rintro ⟨_, ⟨between, hb, rfl⟩, h⟩
        obtain ⟨ht, ho⟩ := ih.1 h
        exact ⟨ht, between, hb, ho⟩
      · rintro ⟨ht, between, hb, ho⟩
        exact ⟨_, ⟨between, hb, rfl⟩, ih.2 ⟨ht, ho⟩⟩

theorem Fields.complete_slots {slot : Option α} {others : rest.Slots} {a : α} {b : β} :
    (Fields.field name s absent hidden rest).complete (slots slot others) = .ok (a, b) ↔
      slot.or absent = some a ∧ rest.complete others = .ok b := by
  simp only [complete, slots]
  cases slot.or absent with
  | none => simp
  | some a' =>
    simp only [bind_eq_ok, Except.ok.injEq, Prod.mk.injEq, Option.some.injEq]
    constructor
    · rintro ⟨b', hb, rfl, rfl⟩
      exact ⟨rfl, hb⟩
    · rintro ⟨rfl, hb⟩
      exact ⟨b, hb, rfl, rfl⟩

theorem Fields.foldlM_fill_done {members : List (Member Node)}
    (h : ∀ m ∈ members, m.unskippable = none) (slots : Fields.done.Slots) :
    members.foldlM Fields.done.fill slots = .ok slots := by
  induction members generalizing slots with
  | nil => rfl
  | cons m members ih =>
    have hm : Fields.done.fill slots m = .ok slots := by
      simp [Fields.fill, h m List.mem_cons_self]
    rw [List.foldlM_cons, hm]
    exact ih (fun m hm => h m (List.mem_cons_of_mem _ hm)) slots

/-- A record is complete when its first field has a value and its other fields are complete. -/
theorem Fields.exists_complete_field {members : List (Member Node)} {a : α} {b : β} :
    (∃ slots, members.foldlM (Fields.field name s absent hidden rest).fill
          (Fields.field name s absent hidden rest).noSlots = .ok slots ∧
        (Fields.field name s absent hidden rest).complete slots = .ok (a, b)) ↔
      (∃ slot, s.Takes none (members.filter (·.name = name)) slot ∧ slot.or absent = some a) ∧
        ∃ others, (members.filter (·.name ≠ name)).foldlM rest.fill rest.noSlots = .ok others ∧
          rest.complete others = .ok b := by
  have hnone : (Fields.field name s absent hidden rest).noSlots = slots none rest.noSlots := rfl
  rw [exists_slots, hnone]
  simp only [foldlM_fill, complete_slots]
  constructor
  · rintro ⟨slot, others, ⟨ht, ho⟩, ha, hb⟩
    exact ⟨⟨slot, ht, ha⟩, others, ho, hb⟩
  · rintro ⟨⟨slot, ht, ha⟩, others, ho, hb⟩
    exact ⟨slot, others, ⟨ht, ho⟩, ha, hb⟩

theorem Shape.exists_takes {a : α} :
    ∀ {members : List (Member Node)} {ms : List (String × Json)},
      List.Forall₂ (fun m e => s.decode m.value = .ok a ↔ s.Means e.2 a) members ms →
        ((∃ slot, s.Takes none members slot ∧ slot.or absent = some a) ↔ Gives s.Means absent ms a)
  | _, _, .nil => by simp [Takes, Gives]
  | _, _, .cons h .nil => by simp [Takes, Gives, ← h]
  | _, _, .cons _ (.cons _ _) => by simp [Takes, Gives]

end Fill

/-! ## Decoding -/

/-- Lists that correspond item by item have the same counterparts in a third. -/
theorem forall₂_congr_left {α β γ : Type} {R : α → β → Prop} {S : α → γ → Prop}
    {T : β → γ → Prop} (hST : ∀ a b c, R a b → (S a c ↔ T b c)) {as : List α} {bs : List β}
    (h : List.Forall₂ R as bs) {cs : List γ} : List.Forall₂ S as cs ↔ List.Forall₂ T bs cs := by
  induction h generalizing cs with
  | nil => cases cs <;> simp
  | cons hab _ ih =>
    cases cs with
    | nil => simp
    | cons c cs => rw [List.forall₂_cons, List.forall₂_cons, hST _ _ _ hab, ih]

/-- Members that correspond can be picked by name on either side. -/
theorem Member.Holds.filter {members : List (Member Node)} {ms : List (String × Json)}
    (h : List.Forall₂ Member.Holds members ms) (p : String → Bool) :
    List.Forall₂ Member.Holds (members.filter (p ·.name)) (ms.filter (p ·.1)) :=
  List.rel_filter (fun _ _ hm => by simp [hm.name]) h

section Containers

variable {α β : Type} {s : Shape α} {n : Node} {j : Json}

theorem list_decode_eq_ok
    (hs : ∀ (n : Node) (j : Json) (a : α), n.Holds j → (s.decode n = .ok a ↔ s.Means j a))
    (h : n.Holds j) {as : List α} : s.list.decode n = .ok as ↔ s.list.Means j as := by
  rw [Shape.Means]
  cases h with
  | @array items js start stop hitems =>
    have hmap : items.mapM s.decode = .ok as ↔ List.Forall₂ s.Means js as := by
      rw [mapM_eq_ok_iff]
      exact forall₂_congr_left hs hitems
    simp [Shape.decode, bind_eq_ok, orMishap, Ending.stop, Except.mapError, hmap]
  | _ => simp [Shape.decode]

theorem entries_decode_eq_ok
    (hs : ∀ (n : Node) (j : Json) (a : α), n.Holds j → (s.decode n = .ok a ↔ s.Means j a))
    (h : n.Holds j) {es : List (String × α)} :
    s.entries.decode n = .ok es ↔ s.entries.Means j es := by
  rw [Shape.Means]
  cases h with
  | @object members ms start stop hmembers =>
    have hmap : (members.mapM fun m => (s.decode m.value).map fun a => (m.name, a)) = .ok es ↔
        List.Forall₂ (fun m e => e.1 = m.1 ∧ s.Means m.2 e.2) ms es := by
      rw [mapM_keyed_eq_ok]
      refine forall₂_congr_left (fun m e a hm => ?_) hmembers
      rw [hm.name, hs _ _ _ hm.value]
    simp [Shape.decode, bind_eq_ok, orMishap, Ending.stop, Except.mapError, hmap]
  | _ => simp [Shape.decode]

theorem noSurplus_eq_ok {length stop : Nat} {left : List Node} {u : Unit} :
    noSurplus length left (.closed stop) = .ok u ↔ left = [] := by
  cases left <;> simp [noSurplus, Ending.stop]

theorem record_decode_eq_ok {fields : Fields α}
    (hnamed : ∀ (members : List (Member Node)) (ms : List (String × Json)) (a : α),
      List.Forall₂ Member.Holds members ms →
        ((∃ slots, members.foldlM fields.fill fields.noSlots = .ok slots ∧
          fields.complete slots = .ok a) ↔ fields.Named ms a))
    (hlisted : ∀ (expected : String) (taken stop : Nat) (items : List Node) (js : List Json)
      (a : α), List.Forall₂ Node.Holds items js →
        (fields.inOrder expected taken items (.closed stop) = .ok (a, []) ↔ fields.Listed js a))
    {name : String} {build : α → Except String β} {parts : β → α} (h : n.Holds j) {b : β} :
    (Shape.record name fields build parts).decode n = .ok b ↔
      (Shape.record name fields build parts).Means j b := by
  cases h with
  | @object members ms start stop hmembers =>
    rw [Shape.record_means_object]
    simp only [Shape.decode, bind_eq_ok, orMishap, Ending.stop, mapError_eq_ok, Except.ok.injEq,
      exists_eq_left']
    constructor
    · rintro ⟨slots, hfill, a, hcomplete, hb⟩
      exact ⟨a, (hnamed _ _ _ hmembers).1 ⟨slots, hfill, hcomplete⟩, hb⟩
    · rintro ⟨a, ha, hb⟩
      obtain ⟨slots, hfill, hcomplete⟩ := (hnamed _ _ _ hmembers).2 ha
      exact ⟨slots, hfill, a, hcomplete, hb⟩
  | @array items js start stop hitems =>
    rw [Shape.record_means_array]
    simp [Shape.decode, bind_eq_ok, mapError_eq_ok, noSurplus_eq_ok, hlisted _ _ _ _ _ _ hitems]
  | _ => simp [Shape.decode, Shape.Means, bind_eq_ok]

end Containers

mutual

/-- A decoder finds in a document what its value stands for. -/
theorem Shape.decode_eq_ok : ∀ {α : Type} (s : Shape α) (n : Node) (j : Json) (a : α),
    n.Holds j → (s.decode n = .ok a ↔ s.Means j a)
  | _, .string, _, _, _, h => string_decode_eq_ok h
  | _, .bool, _, _, _, h => bool_decode_eq_ok h
  | _, .natural64, _, _, _, h => natural64_decode_eq_ok h
  | _, .int32, _, _, _, h => int32_decode_eq_ok h
  | _, .any, n, j, a, h => by
    rw [Shape.decode, Shape.Means, orMishap, mapError_eq_ok, h.toJson, Except.ok.injEq, eq_comm]
  | _, .optional s, n, j, a, h => by
    have hs := fun b => s.decode_eq_ok n j b h
    cases a <;> cases h <;> simp [Shape.decode, Shape.Means, map_eq_ok, hs]
  | _, .list s, _, _, _, h => list_decode_eq_ok s.decode_eq_ok h
  | _, .entries s, _, _, _, h => entries_decode_eq_ok s.decode_eq_ok h
  | _, .view s into _, n, j, b, h => by
    rw [Shape.decode, Shape.Means, map_eq_ok]
    simp only [s.decode_eq_ok n j _ h]
  | _, .record _ fields _ _, _, _, _, h =>
    record_decode_eq_ok fields.foldlM_fill_eq_ok fields.inOrder_eq_ok h
termination_by structural _ s => s

/-- From an object a record takes the fields that its members name. -/
theorem Fields.foldlM_fill_eq_ok : ∀ {α : Type} (fields : Fields α) (members : List (Member Node))
    (ms : List (String × Json)) (a : α), List.Forall₂ Member.Holds members ms →
    ((∃ slots, members.foldlM fields.fill fields.noSlots = .ok slots ∧
        fields.complete slots = .ok a) ↔ fields.Named ms a)
  | _, .done, _, _, _, h => by
    have hfill := Fields.foldlM_fill_done (fun m hm => by
      obtain ⟨e, -, he⟩ := exists_of_mem_of_forall₂ h.flip hm
      exact he.unskippable) ()
    exact iff_of_true ⟨(), hfill, rfl⟩ trivial
  | _, .field name s _ _ rest, members, ms, (a, b), h => by
    have hown := (Member.Holds.filter h (· = name)).imp fun m e hm =>
      s.decode_eq_ok m.value e.2 a hm.value
    have hothers := Member.Holds.filter h (· ≠ name)
    rw [Fields.Named, ← rest.foldlM_fill_eq_ok _ _ b hothers, Fields.exists_complete_field]
    exact and_congr_left fun _ => Shape.exists_takes hown
termination_by structural _ fields => fields

/-- From an array a record takes its fields in order. -/
theorem Fields.inOrder_eq_ok : ∀ {α : Type} (fields : Fields α) (expected : String)
    (taken stop : Nat) (items : List Node) (js : List Json) (a : α),
    List.Forall₂ Node.Holds items js →
      (fields.inOrder expected taken items (.closed stop) = .ok (a, []) ↔ fields.Listed js a)
  | _, .done, _, _, _, items, js, a, h => by
    cases h <;> simp [Fields.inOrder, Fields.Listed]
  | _, .field name s absent hidden rest, expected, taken, stop, _, _, (a, b), .nil => by
    rw [Fields.Listed, ← rest.inOrder_eq_ok expected (taken + 1) stop [] [] b .nil]
    cases absent with
    | none => simp [Fields.inOrder, bind_eq_ok, orMishap, Ending.stop, mapError_eq_ok]
    | some d => simp [Fields.inOrder, bind_eq_ok, orMishap, Ending.stop, mapError_eq_ok, and_comm]
  | _, .field name s absent hidden rest, expected, taken, stop, n :: items, j :: js, (a, b),
      .cons h hs => by
    rw [Fields.Listed, ← rest.inOrder_eq_ok expected (taken + 1) stop items js b hs,
      ← s.decode_eq_ok n j a h]
    simp [Fields.inOrder, bind_eq_ok]
termination_by structural _ fields => fields

end

/-- A value is read as what it stands for. -/
theorem Shape.ofJson_eq_ok {α : Type} {s : Shape α} {j : Json} {a : α} :
    s.ofJson j = .ok a ↔ s.Means j a := by
  rw [Shape.ofJson, mapError_eq_ok]
  exact s.decode_eq_ok _ _ _ (Node.holds_ofJson j)

/-- A text is read from its document. -/
theorem Shape.decode_of_ofText {α : Type} {s : Shape α} {text : String} {a : α}
    (h : s.ofText text = .ok a) :
    s.decode (Document.read text).root = .ok a := by
  unfold ofText at h
  cases hd : s.decode (Document.read text).root with
  | error r => simp [hd] at h
  | ok a' =>
    cases hl : (Document.read text).leftover with
    | some m => simp [hd, hl] at h
    | none =>
      obtain rfl : a' = a := by simpa [hd, hl] using h
      rfl

/-- A text that was read to its end is read as what its value stands for. -/
theorem Shape.ofText_eq_ok {α : Type} {s : Shape α} {text : String} {n : Node} {j : Json} {a : α}
    (hread : Document.read text = ⟨n, none⟩) (h : n.Holds j) :
    s.ofText text = .ok a ↔ s.Means j a := by
  rw [← s.decode_eq_ok n j a h]
  unfold Shape.ofText
  rw [hread]
  cases hd : s.decode n <;> simp [hd]

end Provision.Json
