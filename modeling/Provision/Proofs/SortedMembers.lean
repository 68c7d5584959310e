import Provision.Proofs.Entries
import Provision.Json.Value

/-!
# Sorted values

A sorted value is sorted already (`canonical_eq_self`), and sorting a value gives one
(`canonical_canonical`). Of the members of an object, sorting keeps those of a name apart from all
others (`filter_canonicalMembers`), so whoever looks members up by name finds the same, and entries
that are read off the members one by one are put into a table as the members are put into the object
(`forall₂_canonicalMembers`).
-/

namespace Provision

/-! ## Insertions -/

section Insertion

variable {α β : Type} {key : String} {value : α} {entries : List (String × α)}

theorem insertEntry_of_forall_gt (h : ∀ e ∈ entries, key < e.1) :
    insertEntry key value entries = (key, value) :: entries := by
  cases entries with
  | nil => rfl
  | cons e rest =>
    obtain ⟨k, v⟩ := e
    exact if_pos (h (k, v) List.mem_cons_self)

/-- What is picked by name from a list with one entry more. -/
theorem filter_insertEntry (h : Ascending entries) (p : String → Bool) :
    (insertEntry key value entries).filter (p ·.1) =
      if p key then insertEntry key value (entries.filter (p ·.1)) else entries.filter (p ·.1) := by
  fun_induction insertEntry key value entries with
  | case1 => by_cases hkey : p key = true <;> simp [hkey, insertEntry]
  | case2 k v rest hlt =>
    have hgt : ∀ e ∈ ((k, v) :: rest).filter (p ·.1), key < e.1 := by
      intro e he
      rcases List.mem_cons.1 (List.mem_filter.1 he).1 with rfl | he
      · exact hlt
      · exact String.lt_trans hlt ((List.pairwise_cons.1 h).1 e he)
    rw [insertEntry_of_forall_gt hgt, List.filter_cons]
  | case3 k v rest hlt hgt ih =>
    have ih := ih (List.pairwise_cons.1 h).2
    by_cases hk : p k = true
    · rw [List.filter_cons_of_pos (by exact hk), List.filter_cons_of_pos (by exact hk), ih,
        insertEntry, if_neg hlt, if_pos hgt]
      split_ifs <;> rfl
    · rw [List.filter_cons_of_neg (by exact hk), List.filter_cons_of_neg (by exact hk), ih]
  | case4 k v rest hlt hgt =>
    obtain rfl : key = k := String.le_antisymm (String.not_lt.1 hgt) (String.not_lt.1 hlt)
    by_cases hkey : p key = true
    · rw [List.filter_cons_of_pos (by exact hkey), List.filter_cons_of_pos (by exact hkey),
        if_pos hkey, insertEntry, if_neg hlt, if_neg hgt]
    · rw [List.filter_cons_of_neg (by exact hkey), List.filter_cons_of_neg (by exact hkey),
        if_neg hkey]

/-- Entries that correspond still do when both lists have one more. -/
theorem forall₂_insertEntry {R : α → β → Prop} {a : α} {b : β} (hab : R a b)
    {es : List (String × α)} {es' : List (String × β)}
    (h : List.Forall₂ (fun e e' => e'.1 = e.1 ∧ R e.2 e'.2) es es') :
    List.Forall₂ (fun e e' => e'.1 = e.1 ∧ R e.2 e'.2) (insertEntry key a es)
      (insertEntry key b es') := by
  induction h with
  | nil => exact .cons ⟨rfl, hab⟩ .nil
  | @cons e e' es es' he hes ih =>
    obtain ⟨k, v⟩ := e
    obtain ⟨k', v'⟩ := e'
    obtain ⟨rfl, hv⟩ := he
    unfold insertEntry
    split_ifs
    · exact .cons ⟨rfl, hab⟩ (.cons ⟨rfl, hv⟩ hes)
    · exact .cons ⟨rfl, hv⟩ ih
    · exact .cons ⟨rfl, hab⟩ hes

end Insertion

namespace Json

/-! ## Sorting twice -/

mutual

/-- A sorted value is left as it is. -/
theorem canonical_eq_self : ∀ {j : Json}, Canonical j → j.canonical = j
  | .null, _ | .bool _, _ | .number _, _ | .string _, _ => rfl
  | .array _, h => congrArg Json.array (canonicalItems_eq_self h)
  | .object _, h => congrArg Json.object (canonicalMembers_eq_append h.2 h.1)

theorem canonicalItems_eq_self : ∀ {js : List Json}, CanonicalItems js → canonicalItems js = js
  | [], _ => rfl
  | j :: js, h => by rw [canonicalItems, canonical_eq_self h.1, canonicalItems_eq_self h.2]

theorem canonicalMembers_eq_append : ∀ {ms done : List (String × Json)}, CanonicalMembers ms →
    Ascending (done ++ ms) → canonicalMembers ms done = done ++ ms
  | [], done, _, _ => (List.append_nil done).symm
  | (k, j) :: ms, done, h, ha => by
    have hlt : ∀ e ∈ done, e.1 < k := fun e he =>
      (List.pairwise_append.1 ha).2.2 e he (k, j) List.mem_cons_self
    have ha' : Ascending (done ++ [(k, j)] ++ ms) := by simpa using ha
    rw [canonicalMembers, canonical_eq_self h.1, insertEntry_of_forall_lt hlt,
      canonicalMembers_eq_append h.2 ha']
    simp

end

theorem ascending_canonicalMembers : ∀ {ms done : List (String × Json)}, Ascending done →
    Ascending (canonicalMembers ms done)
  | [], _, h => h
  | (_, _) :: _, _, h => by
    rw [canonicalMembers]
    exact ascending_canonicalMembers h.insertEntry

theorem canonicalItems_iff {js : List Json} : CanonicalItems js ↔ ∀ j ∈ js, Canonical j := by
  induction js with
  | nil => simp [CanonicalItems]
  | cons j js ih => simp [CanonicalItems, ih]

theorem canonicalMembers_iff {ms : List (String × Json)} :
    CanonicalMembers ms ↔ ∀ m ∈ ms, Canonical m.2 := by
  induction ms with
  | nil => simp [CanonicalMembers]
  | cons m ms ih => simp [CanonicalMembers, ih]

mutual

/-- Sorting gives a sorted value. -/
theorem canonical_canonical : ∀ j : Json, Canonical j.canonical
  | .null | .bool _ | .number _ | .string _ => trivial
  | .array js => canonicalItems_canonicalItems js
  | .object ms =>
    ⟨ascending_canonicalMembers ascending_nil,
      canonicalMembers_canonicalMembers ms [] trivial⟩

theorem canonicalItems_canonicalItems : ∀ js : List Json, CanonicalItems (canonicalItems js)
  | [] => trivial
  | j :: js => ⟨canonical_canonical j, canonicalItems_canonicalItems js⟩

theorem canonicalMembers_canonicalMembers : ∀ ms done : List (String × Json),
    CanonicalMembers done → CanonicalMembers (canonicalMembers ms done)
  | [], _, h => h
  | (k, j) :: ms, done, h => by
    refine canonicalMembers_canonicalMembers ms _ (canonicalMembers_iff.2 fun m hm => ?_)
    rcases mem_insertEntry hm with rfl | hm
    · exact canonical_canonical j
    · exact canonicalMembers_iff.1 h m hm

end

/-! ## Looking up in sorted members -/

/-- What is picked by name from sorted members is what is picked from the members, sorted. -/
theorem filter_canonicalMembers (p : String → Bool) : ∀ {ms done : List (String × Json)},
    Ascending done → (canonicalMembers ms done).filter (p ·.1) =
      canonicalMembers (ms.filter (p ·.1)) (done.filter (p ·.1))
  | [], _, _ => rfl
  | (k, j) :: ms, done, h => by
    rw [canonicalMembers, filter_canonicalMembers p h.insertEntry, filter_insertEntry h]
    by_cases hk : p k = true
    · rw [if_pos hk, List.filter_cons_of_pos (by exact hk), canonicalMembers]
    · rw [if_neg hk, List.filter_cons_of_neg (by exact hk)]

/-- Members of distinct names are found when they are sorted. -/
theorem findValue?_canonicalMembers {ms : List (String × Json)}
    (h : (ms.map Prod.fst).Nodup) (key : String) :
    findValue? key (canonicalMembers ms []) = (findValue? key ms).map canonical := by
  have hfilter : (canonicalMembers ms []).filter (·.1 = key) =
      canonicalMembers (ms.filter (·.1 = key)) [] :=
    filter_canonicalMembers (· = key) ascending_nil
  rw [findValue?_eq_filter, findValue?_eq_filter, hfilter]
  rcases hown : ms.filter (·.1 = key) with _ | ⟨m, _ | ⟨m', l⟩⟩
  · rw [hown]
    rfl
  · rw [hown]
    rfl
  · have hkey : ∀ e ∈ m :: m' :: l, e.1 = key := fun e he => by
      rw [← hown] at he
      simpa using (List.mem_filter.1 he).2
    have hsub := (List.filter_sublist (p := (·.1 = key)) (l := ms)).map Prod.fst
    rw [hown] at hsub
    have hne := (List.nodup_cons.1 (h.sublist hsub)).1
    rw [hkey m List.mem_cons_self] at hne
    exact absurd (by simp [hkey m' (by simp)]) hne

/-- Entries that are read off the members end up where the members do. -/
theorem forall₂_canonicalMembers {α : Type} {R S : Json → α → Prop}
    (hRS : ∀ j a, R j a → S j.canonical a) {ms : List (String × Json)} {es : List (String × α)}
    (h : List.Forall₂ (fun m e => e.1 = m.1 ∧ R m.2 e.2) ms es) :
    ∀ {done : List (String × Json)} {t : Table α},
      List.Forall₂ (fun m e => e.1 = m.1 ∧ S m.2 e.2) done t.entries →
        List.Forall₂ (fun m e => e.1 = m.1 ∧ S m.2 e.2) (canonicalMembers ms done)
          (es.foldl (fun t e => t.insert e.1 e.2) t).entries := by
  induction h with
  | nil => exact fun hd => hd
  | @cons m e ms es hm _ ih =>
    obtain ⟨k, j⟩ := m
    obtain ⟨k', a⟩ := e
    obtain ⟨rfl, hR⟩ := hm
    exact fun hd => ih (forall₂_insertEntry (hRS j a hR) hd)

end Json

end Provision
