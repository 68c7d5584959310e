import Provision.Dictionary
import Mathlib.Data.List.Forall2
import Mathlib.Data.List.Induction

/-!
# Entries

What `findValue?` finds in a list of entries, and what tables and dictionaries made from such lists
hold. A list whose names ascend already is the list of the entries of its table (`entries_ofList`),
and one whose keys are distinct is that of its dictionary. Traversals that may refuse keep names and
order (`mapM_eq_ok_iff`, `Table.forall₂_of_mapM`).
-/

namespace Provision

/-! ## Traversals -/

/-- A computation that goes on after another succeeds when both do. -/
theorem bind_eq_ok {ε α β : Type} {r : Except ε α} {k : α → Except ε β} {b : β} :
    r >>= k = .ok b ↔ ∃ a, r = .ok a ∧ k a = .ok b := by
  cases r with
  | error e => simp [bind, Except.bind]
  | ok a => simp [bind, Except.bind]

theorem mapError_eq_ok {ε ε' α : Type} {r : Except ε α} {g : ε → ε'} {a : α} :
    r.mapError g = .ok a ↔ r = .ok a := by
  cases r <;> simp [Except.mapError]

theorem mapError_eq_error {ε ε' α : Type} {r : Except ε α} {g : ε → ε'} {e' : ε'} :
    r.mapError g = .error e' ↔ ∃ e, r = .error e ∧ g e = e' := by
  cases r <;> simp [Except.mapError]

theorem map_eq_ok {ε α β : Type} {r : Except ε α} {g : α → β} {b : β} :
    r.map g = .ok b ↔ ∃ a, r = .ok a ∧ g a = b := by
  cases r <;> simp [Except.map]

theorem map_eq_error {ε α β : Type} {r : Except ε α} {g : α → β} {e : ε} :
    r.map g = .error e ↔ r = .error e := by
  cases r <;> simp [Except.map]

/-- A traversal succeeds when every item does, and gives the results in order. -/
theorem mapM_eq_ok_iff {ε α β : Type} {f : α → Except ε β} {l : List α} {bs : List β} :
    l.mapM f = .ok bs ↔ List.Forall₂ (fun a b => f a = .ok b) l bs := by
  induction l generalizing bs with
  | nil => cases bs <;> simp [pure, Except.pure]
  | cons a l ih =>
    rw [List.mapM_cons, bind_eq_ok]
    constructor
    · rintro ⟨b, hb, h⟩
      obtain ⟨bs', hbs, h⟩ := bind_eq_ok.1 h
      obtain rfl : b :: bs' = bs := by simpa [pure, Except.pure] using h
      exact .cons hb (ih.1 hbs)
    · intro h
      obtain ⟨b, bs', hb, hbs, rfl⟩ := List.forall₂_cons_left_iff.1 h
      exact ⟨b, hb, bind_eq_ok.2 ⟨bs', ih.2 hbs, rfl⟩⟩

/-- A traversal that keeps a key of every item succeeds when every item does. -/
theorem mapM_keyed_eq_ok {ε κ α β : Type} {key : α → κ} {f : α → Except ε β} {l : List α}
    {bs : List (κ × β)} :
    (l.mapM fun a => (f a).map fun b => (key a, b)) = .ok bs ↔
      List.Forall₂ (fun a b => b.1 = key a ∧ f a = .ok b.2) l bs := by
  have hitem (a : α) (b : κ × β) :
      ((f a).map fun b => (key a, b)) = .ok b ↔ b.1 = key a ∧ f a = .ok b.2 := by
    rw [map_eq_ok]
    constructor
    · rintro ⟨own, hown, rfl⟩
      exact ⟨rfl, hown⟩
    · rintro ⟨hkey, hb⟩
      exact ⟨b.2, hb, Prod.ext hkey.symm rfl⟩
  simp only [mapM_eq_ok_iff, hitem]

/-- A traversal that refuses does so at the first item that is refused. -/
theorem mapM_eq_error {ε α β : Type} {f : α → Except ε β} {e : ε} :
    ∀ {l : List α}, l.mapM f = .error e →
      ∃ before a after, l = before ++ a :: after ∧ f a = .error e ∧ ∀ b ∈ before, ∃ c, f b = .ok c
  | [], h => nomatch h
  | a :: l, h => by
    rw [List.mapM_cons] at h
    cases ha : f a with
    | error e' =>
      rw [ha] at h
      obtain rfl : e' = e := Except.error.inj h
      exact ⟨[], a, l, rfl, ha, fun b hb => absurd hb List.not_mem_nil⟩
    | ok c =>
      have hl : l.mapM f = .error e := by
        rw [ha] at h
        cases hl : l.mapM f with
        | error e' =>
          rw [hl] at h
          exact h
        | ok cs =>
          rw [hl] at h
          cases h
      obtain ⟨before, a', after, rfl, ha', hbefore⟩ := mapM_eq_error hl
      exact ⟨a :: before, a', after, rfl, ha', List.forall_mem_cons.2 ⟨⟨c, ha⟩, hbefore⟩⟩

/-- Related items have the same image, so both lists have. -/
theorem map_eq_of_forall₂ {α β γ : Type} {f : α → γ} {g : β → γ} {as : List α} {bs : List β}
    (h : List.Forall₂ (fun a b => g b = f a) as bs) : bs.map g = as.map f := by
  induction h with
  | nil => rfl
  | cons he _ ih => rw [List.map_cons, List.map_cons, he, ih]

/-- Lists that correspond by the one relation correspond by another that follows from it for their
items. -/
theorem forall₂_imp_of_mem {α β : Type} {R S : α → β → Prop} {as : List α} {bs : List β}
    (h : ∀ a ∈ as, ∀ b, R a b → S a b) (hR : List.Forall₂ R as bs) : List.Forall₂ S as bs := by
  have hand : List.Forall₂ (fun a b => (∀ b, R a b → S a b) ∧ R a b) as bs :=
    (List.forall₂_and_left _ _).2 ⟨h, hR⟩
  exact hand.imp fun a b hab => hab.1 b hab.2

theorem forall₂_congr_of_mem {α β : Type} {R S : α → β → Prop} {as : List α} {bs : List β}
    (h : ∀ a ∈ as, ∀ b, R a b ↔ S a b) : List.Forall₂ R as bs ↔ List.Forall₂ S as bs :=
  ⟨forall₂_imp_of_mem fun a ha b => (h a ha b).1, forall₂_imp_of_mem fun a ha b => (h a ha b).2⟩

/-- What a traversal gives of one list another one gives of a second list, if it is so item by
item. -/
theorem mapM_of_forall₂ {ε α α' β : Type} {f : α → Except ε β} {g : α' → Except ε β}
    {as : List α} {as' : List α'}
    (h : List.Forall₂ (fun a a' => ∀ b, f a = .ok b → g a' = .ok b) as as') {bs : List β}
    (hbs : as.mapM f = .ok bs) : as'.mapM g = .ok bs := by
  rw [mapM_eq_ok_iff] at hbs ⊢
  induction h generalizing bs with
  | nil =>
    cases hbs
    exact .nil
  | cons hfirst _ ih =>
    obtain ⟨b, others, hb, hothers, rfl⟩ := List.forall₂_cons_left_iff.1 hbs
    exact .cons (hfirst b hb) (ih hothers)

/-- The same for entries that keep their names. -/
theorem mapM_entries_of_forall₂ {ε κ α α' β : Type} {f : α → Except ε β} {g : α' → Except ε β}
    {es : List (κ × α)} {es' : List (κ × α')}
    (h : List.Forall₂ (fun e e' => e'.1 = e.1 ∧ ∀ b, f e.2 = .ok b → g e'.2 = .ok b) es es')
    {bs : List (κ × β)} (hbs : (es.mapM fun e => (f e.2).map fun b => (e.1, b)) = .ok bs) :
    (es'.mapM fun e => (g e.2).map fun b => (e.1, b)) = .ok bs := by
  refine mapM_of_forall₂ (h.imp fun e e' he b hb => ?_) hbs
  obtain ⟨own, hown, rfl⟩ := map_eq_ok.1 hb
  rw [he.2 own hown, he.1]
  rfl

theorem exists_of_mem_of_forall₂ {α β : Type} {R : α → β → Prop} {as : List α} {bs : List β}
    (h : List.Forall₂ R as bs) {b : β} (hb : b ∈ bs) : ∃ a ∈ as, R a b := by
  obtain ⟨i, hi, rfl⟩ := List.mem_iff_getElem.1 hb
  have hi' : i < as.length := h.length_eq ▸ hi
  exact ⟨as[i], List.getElem_mem hi', h.get hi' hi⟩

/-! ## Looking up -/

section Lookup

variable {κ ν : Type} [DecidableEq κ] {key : κ} {value : ν} {entries : List (κ × ν)}

theorem findValue?_isSome : (findValue? key entries).isSome ↔ key ∈ entries.map Prod.fst := by
  induction entries with
  | nil => simp [findValue?]
  | cons e rest ih =>
    obtain ⟨k, v⟩ := e
    unfold findValue?
    by_cases hk : k = key
    · simp [hk]
    · rw [if_neg hk, ih]
      simp [Ne.symm hk]

theorem findValue?_eq_filter (key : κ) (entries : List (κ × ν)) :
    findValue? key entries = (entries.filter (·.1 = key)).head?.map Prod.snd := by
  induction entries with
  | nil => rfl
  | cons e rest ih =>
    obtain ⟨k, v⟩ := e
    by_cases hk : k = key
    · simp [findValue?, hk]
    · simp [findValue?, hk, ih]

theorem mem_of_findValue? (h : findValue? key entries = some value) : (key, value) ∈ entries := by
  induction entries with
  | nil => cases h
  | cons e rest ih =>
    obtain ⟨k, v⟩ := e
    unfold findValue? at h
    split_ifs at h with hk
    · obtain rfl := Option.some.inj h
      exact hk ▸ List.mem_cons_self
    · exact List.mem_cons_of_mem _ (ih h)

/-- Entries of distinct keys are found by their keys. -/
theorem findValue?_of_mem (hn : (entries.map Prod.fst).Nodup) (h : (key, value) ∈ entries) :
    findValue? key entries = some value := by
  induction entries with
  | nil => cases h
  | cons e rest ih =>
    obtain ⟨k, v⟩ := e
    rw [List.map_cons, List.nodup_cons] at hn
    unfold findValue?
    rcases List.mem_cons.1 h with heq | hrest
    · cases heq
      exact if_pos rfl
    · have hk : k ≠ key := by
        rintro rfl
        exact hn.1 (List.mem_map.2 ⟨_, hrest, rfl⟩)
      rw [if_neg hk]
      exact ih hn.2 hrest

theorem findValue?_setEntry (k : κ) :
    findValue? k (setEntry key value entries) =
      if k = key then some value else findValue? k entries := by
  induction entries with
  | nil => simp [setEntry, findValue?, eq_comm]
  | cons e rest ih =>
    obtain ⟨l, v⟩ := e
    unfold setEntry
    by_cases hl : l = key
    · by_cases hk : k = key
      · simp [findValue?, hl, hk]
      · have hk' : key ≠ k := Ne.symm hk
        simp [findValue?, hl, hk, hk']
    · rw [if_neg hl]
      by_cases hlk : l = k
      · subst hlk
        simp [findValue?, hl]
      · simp [findValue?, hlk, ih]

theorem mem_setEntry {e : κ × ν} (h : e ∈ setEntry key value entries) :
    e = (key, value) ∨ e ∈ entries := by
  fun_induction setEntry key value entries <;> grind

theorem setEntry_of_notMem (h : key ∉ entries.map Prod.fst) :
    setEntry key value entries = entries ++ [(key, value)] := by
  induction entries with
  | nil => rfl
  | cons e rest ih =>
    obtain ⟨k, v⟩ := e
    rw [List.map_cons, List.mem_cons, not_or] at h
    unfold setEntry
    rw [if_neg (Ne.symm h.1), ih h.2]
    rfl

/-- Entries of the same names hold related values under each of them. -/
theorem findValue?_rel {μ : Type} {R : ν → μ → Prop} {es : List (κ × ν)} {es' : List (κ × μ)}
    (h : List.Forall₂ (fun e e' => e'.1 = e.1 ∧ R e.2 e'.2) es es') (key : κ) :
    Option.Rel R (findValue? key es) (findValue? key es') := by
  induction h with
  | nil => exact .none
  | @cons e e' es es' he _ ih =>
    obtain ⟨k, v⟩ := e
    obtain ⟨k', v'⟩ := e'
    obtain ⟨rfl, hR⟩ := he
    unfold findValue?
    split_ifs with hk
    · exact .some hR
    · exact ih

/-- Entries with distinct names correspond exactly if the names are the same and what is found under
each of them is related. -/
theorem forall₂_iff_findValue? {μ : Type} {R : ν → μ → Prop} {es : List (κ × ν)}
    {es' : List (κ × μ)} (hn : (es.map Prod.fst).Nodup) :
    List.Forall₂ (fun e e' => e'.1 = e.1 ∧ R e.2 e'.2) es es' ↔
      es'.map Prod.fst = es.map Prod.fst ∧
        ∀ key v, findValue? key es = some v → ∃ w, findValue? key es' = some w ∧ R v w := by
  constructor
  · intro h
    refine ⟨map_eq_of_forall₂ (h.imp fun _ _ => And.left), fun key v hv => ?_⟩
    have hrel := findValue?_rel h key
    rw [hv] at hrel
    generalize findValue? key es' = found at hrel ⊢
    cases hrel with
    | some hR => exact ⟨_, rfl, hR⟩
  · rintro ⟨hkeys, hfound⟩
    induction es generalizing es' with
    | nil =>
      rw [List.map_eq_nil_iff.1 hkeys]
      exact .nil
    | cons e es ih =>
      obtain ⟨k, v⟩ := e
      obtain ⟨⟨k', w⟩, es', rfl, rfl, hothers⟩ := List.map_eq_cons_iff.1 hkeys
      obtain ⟨hk, hn⟩ := List.nodup_cons.1 hn
      have hhead : ∃ w', findValue? k' ((k', w) :: es') = some w' ∧ R v w' :=
        hfound k' v (if_pos rfl)
      obtain ⟨w', hw', hR⟩ := hhead
      obtain rfl : w = w' := Option.some.inj ((if_pos rfl).symm.trans hw')
      refine .cons ⟨rfl, hR⟩ (ih hn hothers fun key u hu => ?_)
      -- a name that is found further down is not the first one
      have hne : k' ≠ key := by
        rintro rfl
        exact hk (findValue?_isSome.1 (by rw [hu]; rfl))
      have htail := hfound key u ((if_neg hne).trans hu)
      rwa [findValue?, if_neg hne] at htail

end Lookup

/-! ## Tables and dictionaries -/

/-- What is found after insertions was inserted or there before. -/
theorem mem_of_mem_foldl {σ ε : Type} {entries : σ → List ε} {insert : σ → ε → σ}
    (hinsert : ∀ s e' e, e ∈ entries (insert s e') → e = e' ∨ e ∈ entries s) {e : ε} :
    ∀ {l : List ε} {s : σ}, e ∈ entries (l.foldl insert s) → e ∈ l ∨ e ∈ entries s := by
  intro l
  induction l with
  | nil => exact fun h => .inr h
  | cons e' l ih =>
    intro s h
    rcases ih h with h | h
    · exact .inl (List.mem_cons_of_mem _ h)
    · rcases hinsert s e' e h with rfl | h
      · exact .inl List.mem_cons_self
      · exact .inr h

theorem findValue?_insertEntry {key : String} {value : ν} {entries : List (String × ν)}
    (k : String) : findValue? k (insertEntry key value entries) =
      if k = key then some value else findValue? k entries := by
  induction entries with
  | nil => simp [insertEntry, findValue?, eq_comm]
  | cons e rest ih =>
    obtain ⟨l, v⟩ := e
    unfold insertEntry
    by_cases hlt : key < l
    · rw [if_pos hlt]
      by_cases hk : k = key
      · simp [findValue?, hk]
      · have hk' : key ≠ k := Ne.symm hk
        simp [findValue?, hk, hk']
    · rw [if_neg hlt]
      by_cases hgt : l < key
      · rw [if_pos hgt, findValue?, findValue?, ih]
        by_cases hl : l = k
        · have hne : k ≠ key := by
            rintro rfl
            rw [hl] at hgt
            exact String.lt_irrefl _ hgt
          rw [if_pos hl, if_pos hl, if_neg hne]
        · rw [if_neg hl, if_neg hl]
      · obtain rfl : l = key := String.le_antisymm (String.not_lt.1 hlt) (String.not_lt.1 hgt)
        rw [if_neg hgt]
        by_cases hk : k = l
        · simp [findValue?, hk]
        · have hk' : l ≠ k := Ne.symm hk
          simp [findValue?, hk, hk']

theorem insertEntry_of_forall_lt {key : String} {value : ν} {entries : List (String × ν)}
    (h : ∀ e ∈ entries, e.1 < key) :
    insertEntry key value entries = entries ++ [(key, value)] := by
  induction entries with
  | nil => rfl
  | cons e rest ih =>
    obtain ⟨k, v⟩ := e
    have hk : k < key := h _ List.mem_cons_self
    unfold insertEntry
    rw [if_neg (String.lt_asymm hk), if_pos hk, ih fun e he => h e (List.mem_cons_of_mem _ he)]
    rfl

theorem ascending_iff_keys {entries : List (String × ν)} :
    Ascending entries ↔ (entries.map Prod.fst).Pairwise (· < ·) := List.pairwise_map.symm

theorem Ascending.nodup_keys {entries : List (String × ν)} (h : Ascending entries) :
    (entries.map Prod.fst).Nodup := by
  refine List.pairwise_map.2 (h.imp fun {a b} hab he => ?_)
  rw [he] at hab
  exact String.lt_irrefl _ hab

theorem keys_eq_of_forall₂ {κ ν μ : Type} {es : List (κ × ν)} {es' : List (κ × μ)}
    (h : List.Forall₂ (fun e e' => e'.1 = e.1) es es') : es'.map Prod.fst = es.map Prod.fst :=
  map_eq_of_forall₂ h

theorem ascending_of_forall₂ {ν μ : Type} {es : List (String × ν)} {es' : List (String × μ)}
    (ha : Ascending es) (h : List.Forall₂ (fun e e' => e'.1 = e.1) es es') : Ascending es' := by
  rw [ascending_iff_keys, keys_eq_of_forall₂ h]
  exact ascending_iff_keys.1 ha

namespace Table

theorem ext {s t : Table ν} (h : s.entries = t.entries) : s = t := by
  obtain ⟨entries, _⟩ := s
  subst h
  rfl

/-- Names that ascend are put behind one another. -/
theorem entries_foldl_insert (entries : List (String × ν)) :
    ∀ t : Table ν, Ascending (t.entries ++ entries) →
      (entries.foldl (fun t e => t.insert e.1 e.2) t).entries = t.entries ++ entries := by
  induction entries with
  | nil => simp
  | cons e rest ih =>
    intro t h
    have hlt : ∀ e' ∈ t.entries, e'.1 < e.1 := fun e' he' =>
      (List.pairwise_append.1 h).2.2 e' he' e List.mem_cons_self
    have hins : (t.insert e.1 e.2).entries = t.entries ++ [e] := insertEntry_of_forall_lt hlt
    rw [List.foldl_cons, ih _ (by rw [hins]; simpa using h), hins]
    simp

theorem entries_ofList {entries : List (String × ν)} (h : Ascending entries) :
    (ofList entries).entries = entries :=
  entries_foldl_insert entries empty h

theorem ofList_entries (t : Table ν) : ofList t.entries = t := ext (entries_ofList t.ascending)

theorem mem_of_mem_ofList {entries : List (String × ν)} {e : String × ν}
    (h : e ∈ (ofList entries).entries) : e ∈ entries :=
  (mem_of_mem_foldl (fun _ _ _ => mem_insertEntry) h).resolve_right List.not_mem_nil

/-- Of entries with one name the last counts. -/
theorem get?_ofList (entries : List (String × ν)) (name : String) :
    (ofList entries).get? name =
      ((entries.filter (·.1 = name)).getLast?).map Prod.snd := by
  induction entries using List.reverseRecOn with
  | nil => rfl
  | append_singleton entries e ih =>
    have hins : (ofList (entries ++ [e])).get? name =
        if name = e.1 then some e.2 else (ofList entries).get? name := by
      unfold ofList
      rw [List.foldl_append]
      exact findValue?_insertEntry name
    rw [hins, List.filter_append]
    by_cases hname : e.1 = name
    · rw [if_pos hname.symm, List.filter_cons_of_pos (by simpa using hname), List.filter_nil,
        List.getLast?_concat]
      rfl
    · rw [if_neg (Ne.symm hname), List.filter_cons_of_neg (by simpa using hname), List.filter_nil,
        List.append_nil, ih]

/-- Tables are traversed name by name. -/
theorem forall₂_of_mapM {ε μ : Type} {f : ν → Except ε μ} {t : Table ν} {u : Table μ}
    (h : t.mapM f = .ok u) :
    List.Forall₂ (fun e e' => e'.1 = e.1 ∧ f e.2 = .ok e'.2) t.entries u.entries := by
  obtain ⟨bs, hm, rfl⟩ := map_eq_ok.1 h
  have hall := mapM_keyed_eq_ok.1 hm
  rwa [entries_ofList (ascending_of_forall₂ t.ascending (hall.imp fun _ _ => And.left))]

theorem nodup_keys (t : Table ν) : t.keys.Nodup := t.ascending.nodup_keys

theorem get?_eq_some {t : Table ν} {name : String} {value : ν} :
    t.get? name = some value ↔ (name, value) ∈ t.entries :=
  ⟨mem_of_findValue?, findValue?_of_mem t.nodup_keys⟩

theorem contains_iff {t : Table ν} {key : String} : t.contains key = true ↔ key ∈ t.keys :=
  findValue?_isSome

theorem mem_keys_of_get? {t : Table ν} {key : String} {value : ν} (h : t.get? key = some value) :
    key ∈ t.keys :=
  List.mem_map_of_mem (mem_of_findValue? h)

end Table

namespace Dictionary

variable {κ ν : Type} [DecidableEq κ]

omit [DecidableEq κ] in
theorem ext {d d' : Dictionary κ ν} (h : d.entries = d'.entries) : d = d' := by
  obtain ⟨entries, _⟩ := d
  subst h
  rfl

@[simp] theorem get?_insert (d : Dictionary κ ν) (key : κ) (value : ν) (k : κ) :
    (d.insert key value).get? k = if k = key then some value else d.get? k :=
  findValue?_setEntry k

/-- Keys that are new are put behind one another. -/
theorem entries_foldl_insert (entries : List (κ × ν)) :
    ∀ d : Dictionary κ ν, ((d.entries ++ entries).map Prod.fst).Nodup →
      (entries.foldl (fun d e => d.insert e.1 e.2) d).entries = d.entries ++ entries := by
  induction entries with
  | nil => simp
  | cons e rest ih =>
    intro d h
    have hnew : e.1 ∉ d.entries.map Prod.fst := by
      intro hm
      rw [List.map_append, List.nodup_append] at h
      exact h.2.2 _ hm _ (List.mem_map_of_mem List.mem_cons_self) rfl
    have hins : (d.insert e.1 e.2).entries = d.entries ++ [e] := setEntry_of_notMem hnew
    rw [List.foldl_cons, ih _ (by rw [hins]; simpa using h), hins]
    simp

theorem entries_ofList {entries : List (κ × ν)} (h : (entries.map Prod.fst).Nodup) :
    (ofList entries).entries = entries :=
  entries_foldl_insert entries empty h

theorem ofList_entries (d : Dictionary κ ν) : ofList d.entries = d :=
  ext (entries_ofList d.distinct)

theorem mem_of_mem_ofList {entries : List (κ × ν)} {e : κ × ν}
    (h : e ∈ (ofList entries).entries) : e ∈ entries :=
  (mem_of_mem_foldl (fun _ _ _ => mem_setEntry) h).resolve_right List.not_mem_nil

end Dictionary

end Provision
