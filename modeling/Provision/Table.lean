/-!
# Tables

A table maps names to values and lists its entries in strictly ascending order of the names, that is
in code point order, which is also the byte order of their UTF-8 forms. The order is part of the
type, so two tables with the same entries are equal.

`insertEntry` is the operation on plain lists of entries; objects of `Json` use it too.
-/

namespace Provision

/-- The entries with `key` set to `value`, kept in ascending order. -/
def insertEntry (key : String) (value : α) : List (String × α) → List (String × α)
  | [] => [(key, value)]
  | (k, v) :: rest =>
    if key < k then (key, value) :: (k, v) :: rest
    else if k < key then (k, v) :: insertEntry key value rest
    else (key, value) :: rest

/-- The value of the first entry named `key`. -/
def findValue? [DecidableEq κ] (key : κ) : List (κ × α) → Option α
  | [] => none
  | (k, v) :: rest => if k = key then some v else findValue? key rest

/-- Names strictly ascend along the entries. -/
def Ascending (entries : List (String × α)) : Prop :=
  entries.Pairwise fun a b => a.1 < b.1

theorem mem_insertEntry {key : String} {value : α} {entries : List (String × α)}
    {e : String × α} (h : e ∈ insertEntry key value entries) : e = (key, value) ∨ e ∈ entries := by
  fun_induction insertEntry key value entries <;> grind

theorem ascending_nil : Ascending ([] : List (String × α)) := List.Pairwise.nil

theorem Ascending.insertEntry {key : String} {value : α} {entries : List (String × α)}
    (h : Ascending entries) : Ascending (insertEntry key value entries) := by
  unfold Ascending at h ⊢
  fun_induction Provision.insertEntry key value entries with
  | case1 => simp
  | case2 k v rest hlt =>
    refine List.pairwise_cons.2 ⟨fun e he => ?_, h⟩
    rcases List.mem_cons.1 he with rfl | he
    · exact hlt
    · exact String.lt_trans hlt ((List.pairwise_cons.1 h).1 e he)
  | case3 k v rest _ hgt ih =>
    obtain ⟨h₁, h₂⟩ := List.pairwise_cons.1 h
    refine List.pairwise_cons.2 ⟨fun e he => ?_, ih h₂⟩
    rcases mem_insertEntry he with rfl | he
    · exact hgt
    · exact h₁ e he
  | case4 k v rest hlt hgt =>
    obtain ⟨h₁, h₂⟩ := List.pairwise_cons.1 h
    have hk : key = k := String.le_antisymm (String.not_lt.1 hgt) (String.not_lt.1 hlt)
    exact List.pairwise_cons.2 ⟨fun e he => hk ▸ h₁ e he, h₂⟩

/-- Entries in strictly ascending order of their names. -/
structure Table (α : Type) where
  entries : List (String × α)
  ascending : Ascending entries

namespace Table

/-- The table without entries. -/
def empty : Table α := ⟨[], ascending_nil⟩

instance : EmptyCollection (Table α) := ⟨empty⟩

instance : Inhabited (Table α) := ⟨empty⟩

/-- The table with `key` set to `value`. -/
def insert (t : Table α) (key : String) (value : α) : Table α :=
  ⟨insertEntry key value t.entries, t.ascending.insertEntry⟩

/-- The table of some entries in any order; of entries with one name the last counts. -/
def ofList (entries : List (String × α)) : Table α :=
  entries.foldl (fun t e => t.insert e.1 e.2) empty

/-- The value named `key`. -/
def get? (t : Table α) (key : String) : Option α := findValue? key t.entries

/-- Whether some entry is named `key`. -/
def contains (t : Table α) (key : String) : Bool := (t.get? key).isSome

/-- The names, ascending. -/
def keys (t : Table α) : List String := t.entries.map Prod.fst

/-- Whether there is no entry. -/
def isEmpty (t : Table α) : Bool := t.entries.isEmpty

/-- The table with every value replaced by its image. -/
def map (f : α → β) (t : Table α) : Table β where
  entries := t.entries.map fun e => (e.1, f e.2)
  ascending := by
    have h := t.ascending
    unfold Ascending at h ⊢
    exact List.pairwise_map.2 h

/-- The table with every value replaced by its image, or the first refusal in name order. -/
def mapM (f : α → Except ε β) (t : Table α) : Except ε (Table β) :=
  (t.entries.mapM fun e => (f e.2).map fun b => (e.1, b)).map ofList

end Table

end Provision
