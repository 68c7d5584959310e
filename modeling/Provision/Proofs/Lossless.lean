import Provision.Proofs.CompactText
import Provision.Proofs.Decoding
import Provision.Proofs.SortedMembers

/-!
# Lossless shapes

What a shape writes, it should read back. `Shape.Lawful` is what this takes of the shape: no two
fields of one name, a field hidden only when its default says the same, an optional value never
written as null, and conversions that undo each other. `Shape.Proper` is what it takes of a value:
Json in it is sorted, and no optional Json is null. Then the encoding of a value stands for the
value (`Shape.means_write`), and whatever is read is proper (`Shape.proper_of_means`). Sorting the
encoding changes nothing (`Shape.means_canonical`), as long as nothing in the shape depends on the
order of members.
-/

namespace Provision.Json

/-! ## Lawful shapes and proper values -/

/-- The names of the fields. -/
def Fields.names : {α : Type} → Fields α → List String
  | _, .done => []
  | _, .field name _ _ _ rest => name :: rest.names

section Names

variable {α β : Type} {name : String} {s : Shape α} {rest : Fields β}

@[simp] theorem Fields.names_done : Fields.done.names = [] := rfl

@[simp] theorem Fields.names_required :
    (Fields.required name s rest).names = name :: rest.names := rfl

@[simp] theorem Fields.names_defaulted {absent : α} :
    (Fields.defaulted name s absent rest).names = name :: rest.names := rfl

@[simp] theorem Fields.names_sparse :
    (Fields.sparse name s rest).names = name :: rest.names := rfl

end Names

mutual

/-- The Json in the value is sorted, and none of it is null where it is optional. -/
def Shape.Proper : {α : Type} → Shape α → α → Prop
  | _, .string, _ | _, .bool, _ | _, .natural64, _ | _, .int32, _ => True
  | _, .any, j => Canonical j
  | _, .optional _, none => True
  | _, .optional s, some a => s.write a ≠ .null ∧ s.Proper a
  | _, .list s, as => ∀ a ∈ as, s.Proper a
  | _, .entries s, es => ∀ e ∈ es, s.Proper e.2
  | _, .view s _ back, b => s.Proper (back b)
  | _, .record _ fields _ parts, b => fields.Proper (parts b)
termination_by structural _ s => s

/-- `Proper` for every field. -/
def Fields.Proper : {α : Type} → Fields α → α → Prop
  | _, .done, _ => True
  | _, .field _ s _ _ rest, (a, b) => s.Proper a ∧ rest.Proper b
termination_by structural _ fields => fields

end

mutual

/-- What the shape writes of a proper value, it reads as the value. -/
def Shape.Lawful : {α : Type} → Shape α → Prop
  | _, .string | _, .bool | _, .natural64 | _, .int32 | _, .any => True
  | _, .optional s => s.Lawful ∧ ∀ j a, s.Means j a → s.write a = .null → j = .null
  | _, .list s | _, .entries s => s.Lawful
  | _, .view s into back =>
    s.Lawful ∧ (∀ b, into (back b) = b) ∧ ∀ a, s.Proper a → s.Proper (back (into a))
  | _, .record _ fields build parts => fields.Lawful ∧ ∀ a b, build a = .ok b ↔ parts b = a
termination_by structural _ s => s

/-- The names are distinct, and a field that is not written has its default. -/
def Fields.Lawful : {α : Type} → Fields α → Prop
  | _, .done => True
  | _, .field name s absent hidden rest =>
    s.Lawful ∧ name ∉ rest.names ∧ (∀ a, hidden a = true → absent = some a) ∧
      (∀ a, absent = some a → s.Proper a) ∧ rest.Lawful
termination_by structural _ fields => fields

end

/-! ## Reading what was written -/

theorem Fields.names_write : ∀ {α : Type} (fields : Fields α) (a : α),
    ∀ m ∈ fields.write a, m.1 ∈ fields.names
  | _, .done, _, m, hm => absurd hm List.not_mem_nil
  | _, .field name s absent hidden rest, (a, b), m, hm => by
    have hrest := rest.names_write b m
    rw [Fields.write] at hm
    rw [names, List.mem_cons]
    split_ifs at hm with hidden
    · exact .inr (hrest hm)
    · rcases List.mem_cons.1 hm with rfl | hm
      · exact .inl rfl
      · exact .inr (hrest hm)

/-- The members of other fields are left when those of one name are taken out. -/
theorem Fields.filter_write {α : Type} {fields : Fields α} {name : String}
    (h : name ∉ fields.names) (a : α) :
    (fields.write a).filter (·.1 = name) = [] ∧
      (fields.write a).filter (·.1 ≠ name) = fields.write a := by
  have hne : ∀ m ∈ fields.write a, m.1 ≠ name := by
    rintro m hm rfl
    exact h (fields.names_write a m hm)
  exact ⟨List.filter_eq_nil_iff.2 fun m hm => by simpa using hne m hm,
    List.filter_eq_self.2 fun m hm => by simpa using hne m hm⟩

mutual

/-- The encoding of a proper value stands for the value. -/
theorem Shape.means_write : ∀ {α : Type} {s : Shape α}, s.Lawful → ∀ {a : α}, s.Proper a →
    s.Means (s.write a) a
  | _, .string, _, _, _ | _, .bool, _, _, _ | _, .natural64, _, _, _ | _, .int32, _, _, _ => rfl
  | _, .any, _, _, h => (canonical_eq_self h).symm
  | _, .optional _, _, none, _ => rfl
  | _, .optional _, hl, some _, h => ⟨h.1, Shape.means_write hl.1 h.2⟩
  | _, .list s, hl, as, h => by
    refine ⟨as.map s.write, rfl, ?_⟩
    rw [List.forall₂_map_left_iff, List.forall₂_same]
    exact fun a ha => Shape.means_write (s := s) hl (h a ha)
  | _, .entries s, hl, es, h => by
    refine ⟨es.map fun e => (e.1, s.write e.2), rfl, ?_⟩
    rw [List.forall₂_map_left_iff, List.forall₂_same]
    exact fun e he => ⟨rfl, Shape.means_write (s := s) hl (h e he)⟩
  | _, .view _ _ _, hl, _, h => ⟨_, Shape.means_write hl.1 h, hl.2.1 _⟩
  | _, .record _ fields build parts, hl, b, h => by
    rw [Shape.write, Shape.record_means_object]
    exact ⟨parts b, Fields.named_write hl.1 h, (hl.2 _ b).2 rfl⟩
termination_by structural _ s => s

/-- The members that are written of a record give its fields. -/
theorem Fields.named_write : ∀ {α : Type} {fields : Fields α}, fields.Lawful → ∀ {a : α},
    fields.Proper a → fields.Named (fields.write a) a
  | _, .done, _, _, _ => trivial
  | _, .field name s absent hidden rest, hl, (a, b), h => by
    obtain ⟨hs, hname, hhidden, -, hrest⟩ := hl
    obtain ⟨hown, hothers⟩ := Fields.filter_write hname b
    rw [Fields.Named, Fields.write]
    split_ifs with ha
    · rw [hown, hothers]
      exact ⟨hhidden a ha, Fields.named_write hrest h.2⟩
    · rw [List.filter_cons_of_pos (by simp), List.filter_cons_of_neg (by simp), hown, hothers]
      exact ⟨Shape.means_write hs h.1, Fields.named_write hrest h.2⟩
termination_by structural _ fields => fields

end

/-! ## What is read is proper -/

mutual

/-- Whatever is read is proper. -/
theorem Shape.proper_of_means : ∀ {α : Type} {s : Shape α}, s.Lawful → ∀ {j : Json} {a : α},
    s.Means j a → s.Proper a
  | _, .string, _, _, _, _ | _, .bool, _, _, _, _ | _, .natural64, _, _, _, _
  | _, .int32, _, _, _, _ => trivial
  | _, .any, _, j, _, h => by
    rw [Shape.Means] at h
    rw [Shape.Proper, h]
    exact canonical_canonical j
  | _, .optional _, _, _, none, _ => trivial
  | _, .optional _, hl, j, some a, h =>
    ⟨fun hnull => h.1 (hl.2 j a h.2 hnull), Shape.proper_of_means hl.1 h.2⟩
  | _, .list s, hl, _, _, h => by
    obtain ⟨js, -, h⟩ := h
    intro a ha
    obtain ⟨j, -, hj⟩ := exists_of_mem_of_forall₂ h ha
    exact Shape.proper_of_means (s := s) hl hj
  | _, .entries s, hl, _, _, h => by
    obtain ⟨ms, -, h⟩ := h
    intro e he
    obtain ⟨m, -, -, hm⟩ := exists_of_mem_of_forall₂ h he
    exact Shape.proper_of_means (s := s) hl hm
  | _, .view _ _ _, hl, _, _, h => by
    obtain ⟨a, h, rfl⟩ := h
    exact hl.2.2 a (Shape.proper_of_means hl.1 h)
  | _, .record _ _ _ _, hl, _, b, h => by
    obtain ⟨a, h, hb⟩ := h
    rw [Shape.Proper, (hl.2 a b).1 hb]
    rcases h with ⟨ms, -, h⟩ | ⟨js, -, h⟩
    · exact Fields.proper_of_named hl.1 h
    · exact Fields.proper_of_listed hl.1 h
termination_by structural _ s => s

theorem Fields.proper_of_named : ∀ {α : Type} {fields : Fields α}, fields.Lawful →
    ∀ {ms : List (String × Json)} {a : α}, fields.Named ms a → fields.Proper a
  | _, .done, _, _, _, _ => trivial
  | _, .field _ _ _ _ _, hl, _, (_, _), h => by
    obtain ⟨hs, -, -, habsent, hrest⟩ := hl
    obtain ⟨ha, hb⟩ := h
    refine ⟨?_, Fields.proper_of_named hrest hb⟩
    unfold Gives at ha
    split at ha
    · exact habsent _ ha
    · exact Shape.proper_of_means hs ha
    · exact ha.elim
termination_by structural _ fields => fields

theorem Fields.proper_of_listed : ∀ {α : Type} {fields : Fields α}, fields.Lawful →
    ∀ {js : List Json} {a : α}, fields.Listed js a → fields.Proper a
  | _, .done, _, _, _, _ => trivial
  | _, .field _ _ _ _ _, hl, [], (a, _), h =>
    ⟨hl.2.2.2.1 a h.1, Fields.proper_of_listed hl.2.2.2.2 h.2⟩
  | _, .field _ _ _ _ _, hl, _ :: _, (_, _), h =>
    ⟨Shape.proper_of_means hl.1 h.1, Fields.proper_of_listed hl.2.2.2.2 h.2⟩
termination_by structural _ fields => fields

end

/-! ## Sorting what was written -/

mutual

/-- Nothing in the shape depends on the order of members. -/
def Shape.Orderless : {α : Type} → Shape α → Prop
  | _, .string | _, .bool | _, .natural64 | _, .int32 | _, .any => True
  | _, .optional s | _, .list s => s.Orderless
  | _, .entries _ => False
  | _, .view s into _ => ∀ j a, s.Means j a → ∃ a', s.Means j.canonical a' ∧ into a' = into a
  | _, .record _ fields _ _ => fields.Orderless
termination_by structural _ s => s

/-- `Orderless` for every field. -/
def Fields.Orderless : {α : Type} → Fields α → Prop
  | _, .done => True
  | _, .field _ s _ _ rest => s.Orderless ∧ rest.Orderless
termination_by structural _ fields => fields

end

theorem canonical_eq_null {j : Json} : j.canonical = .null ↔ j = .null := by
  cases j <;> simp [canonical]

theorem canonicalItems_eq_map (js : List Json) : canonicalItems js = js.map canonical := by
  induction js with
  | nil => rfl
  | cons j js ih => rw [canonicalItems, List.map_cons, ih]

theorem gives_canonical {α : Type} {means : Json → α → Prop} {absent : Option α}
    (hmeans : ∀ j a, means j a → means j.canonical a) :
    ∀ {ms : List (String × Json)} {a : α}, Gives means absent ms a →
      Gives means absent (canonicalMembers ms []) a
  | [], _, h => h
  | [(_, j)], a, h => hmeans j a h
  | _ :: _ :: _, _, h => h.elim

mutual

/-- Sorting a value leaves what it stands for. -/
theorem Shape.means_canonical : ∀ {α : Type} {s : Shape α}, s.Orderless → ∀ {j : Json} {a : α},
    s.Means j a → s.Means j.canonical a
  | _, .string, _, _, _, h | _, .bool, _, _, _, h | _, .natural64, _, _, _, h => by
    rw [Shape.Means] at h ⊢
    rw [h]
    rfl
  | _, .int32, _, _, _, h => by
    rw [Shape.Means] at h ⊢
    rw [h, ofInt32]
    split <;> rfl
  | _, .any, _, _, _, h => by
    rw [Shape.Means] at h ⊢
    rw [h, canonical_eq_self (canonical_canonical _)]
  | _, .optional _, _, _, none, h => by
    rw [Shape.Means] at h ⊢
    rw [h]
    rfl
  | _, .optional s, ho, _, some _, h =>
    ⟨fun hnull => h.1 (canonical_eq_null.1 hnull), Shape.means_canonical (s := s) ho h.2⟩
  | _, .list s, ho, _, _, h => by
    obtain ⟨js, rfl, h⟩ := h
    refine ⟨canonicalItems js, rfl, ?_⟩
    rw [canonicalItems_eq_map, List.forall₂_map_left_iff]
    exact h.imp fun j a hj => Shape.means_canonical (s := s) ho hj
  | _, .entries _, ho, _, _, _ => ho.elim
  | _, .view _ _ _, ho, j, _, h => by
    obtain ⟨a, h, rfl⟩ := h
    exact ho j a h
  | _, .record _ fields _ _, ho, _, b, h => by
    obtain ⟨a, ⟨ms, rfl, h⟩ | ⟨js, rfl, h⟩, hb⟩ := h
    · exact Shape.record_means_object.2 ⟨a, Fields.named_canonical ho h, hb⟩
    · exact Shape.record_means_array.2 ⟨a, Fields.listed_canonical ho h, hb⟩
termination_by structural _ s => s

theorem Fields.named_canonical : ∀ {α : Type} {fields : Fields α}, fields.Orderless →
    ∀ {ms : List (String × Json)} {a : α}, fields.Named ms a →
      fields.Named (canonicalMembers ms []) a
  | _, .done, _, _, _, _ => trivial
  | _, .field name _ _ _ _, ho, ms, (_, _), h => by
    obtain ⟨ha, hb⟩ := h
    have hfilter (p : String → Bool) : (canonicalMembers ms []).filter (p ·.1) =
        canonicalMembers (ms.filter (p ·.1)) [] := filter_canonicalMembers p ascending_nil
    rw [Fields.Named, hfilter (· = name), hfilter (· ≠ name)]
    exact ⟨gives_canonical (fun _ _ hm => Shape.means_canonical ho.1 hm) ha,
      Fields.named_canonical ho.2 hb⟩
termination_by structural _ fields => fields

theorem Fields.listed_canonical : ∀ {α : Type} {fields : Fields α}, fields.Orderless →
    ∀ {js : List Json} {a : α}, fields.Listed js a → fields.Listed (canonicalItems js) a
  | _, .done, _, _, _, h => by
    rw [Fields.Listed] at h
    rw [h]
    rfl
  | _, .field _ _ _ _ _, ho, [], (a, _), h => ⟨h.1, Fields.listed_canonical ho.2 h.2⟩
  | _, .field _ _ _ _ _, ho, _ :: _, (_, _), h =>
    ⟨Shape.means_canonical ho.1 h.1, Fields.listed_canonical ho.2 h.2⟩
termination_by structural _ fields => fields

end

/-! ## Parts of lawful shapes -/

section Parts

variable {α β : Type} {name : String} {s : Shape α} {rest : Fields β}

@[simp] theorem Shape.lawful_string : Shape.string.Lawful := trivial

@[simp] theorem Shape.lawful_bool : Shape.bool.Lawful := trivial

@[simp] theorem Shape.lawful_natural64 : Shape.natural64.Lawful := trivial

@[simp] theorem Shape.lawful_int32 : Shape.int32.Lawful := trivial

@[simp] theorem Shape.lawful_any : Shape.any.Lawful := trivial

@[simp] theorem Shape.lawful_list : s.list.Lawful ↔ s.Lawful := Iff.rfl

theorem Shape.proper_optional {o : Option α} :
    s.optional.Proper o ↔ ∀ a, o = some a → s.write a ≠ .null ∧ s.Proper a := by
  cases o <;> simp [Proper]

theorem Shape.proper_optional_string (o : Option String) : (Shape.optional .string).Proper o :=
  proper_optional.2 fun _ _ => ⟨by simp [write], trivial⟩

theorem Shape.proper_optional_any {o : Option Json} (hnull : o ≠ some .null)
    (h : ∀ j, o = some j → Canonical j) : (Shape.optional .any).Proper o :=
  proper_optional.2 fun j hj => ⟨fun heq => hnull (heq ▸ hj), h j hj⟩

@[simp] theorem Fields.lawful_done : Fields.done.Lawful := trivial

@[simp] theorem Fields.lawful_required :
    (Fields.required name s rest).Lawful ↔ s.Lawful ∧ name ∉ rest.names ∧ rest.Lawful := by
  simp [required, Lawful]

@[simp] theorem Fields.lawful_defaulted {absent : α} :
    (Fields.defaulted name s absent rest).Lawful ↔
      s.Lawful ∧ name ∉ rest.names ∧ s.Proper absent ∧ rest.Lawful := by
  simp [defaulted, Lawful]

@[simp] theorem Fields.lawful_sparse :
    (Fields.sparse name s rest).Lawful ↔
      s.optional.Lawful ∧ name ∉ rest.names ∧ rest.Lawful := by
  have habsent : s.optional.Proper none := trivial
  simp [sparse, Lawful, habsent]

/-- A record that is put together from its parts, and from no others. -/
theorem Shape.lawful_record {fields : Fields α} {build : α → Except String β} {parts : β → α}
    (hf : fields.Lawful) (hparts : ∀ b, build (parts b) = .ok b)
    (hbuild : ∀ a b, build a = .ok b → parts b = a) :
    (Shape.record name fields build parts).Lawful :=
  ⟨hf, fun a b => ⟨hbuild a b, fun h => h ▸ hparts b⟩⟩

/-- An optional value that is never written as null. -/
theorem Shape.lawful_optional (hs : s.Lawful) (hnull : ∀ a, s.write a ≠ .null) :
    s.optional.Lawful :=
  ⟨hs, fun _ a _ h => absurd h (hnull a)⟩

@[simp] theorem Shape.lawful_optional_string : (Shape.optional .string).Lawful :=
  lawful_optional trivial fun _ => by simp [write]

/-- Optional Json is written as null only if it was read from null. -/
@[simp] theorem Shape.lawful_optional_any : (Shape.optional .any).Lawful := by
  refine ⟨trivial, fun j a h hnull => ?_⟩
  rw [Shape.Means] at h
  rw [Shape.write, h] at hnull
  exact canonical_eq_null.1 hnull

theorem Shape.lawful_table (hs : s.Lawful) : (Shape.table s).Lawful :=
  ⟨hs, Table.ofList_entries, fun _ h e he => h e (Table.mem_of_mem_ofList he)⟩

/-- A table sorts its entries itself. -/
theorem Shape.orderless_table (hs : s.Orderless) : (Shape.table s).Orderless := by
  intro j es h
  obtain ⟨ms, rfl, h⟩ := h
  refine ⟨(Table.ofList es).entries, ⟨canonicalMembers ms [], rfl, ?_⟩, Table.ofList_entries _⟩
  exact forall₂_canonicalMembers (fun _ _ hj => Shape.means_canonical hs hj) h .nil

end Parts

end Provision.Json
