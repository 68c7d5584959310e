import Provision.Table

/-!
# Dictionaries

A dictionary maps keys to values and lists its entries in some order of its own, which no reader of
the library's results may see: whatever is shown of a dictionary is sorted first. Every key occurs
once.
-/

namespace Provision

/-- The entries with `key` set to `value`: in its place if it is there, else at the end. -/
def setEntry [DecidableEq κ] (key : κ) (value : ν) : List (κ × ν) → List (κ × ν)
  | [] => [(key, value)]
  | (k, v) :: rest => if k = key then (key, value) :: rest else (k, v) :: setEntry key value rest

theorem mem_keys_setEntry [DecidableEq κ] {key k : κ} {value : ν} {entries : List (κ × ν)} :
    k ∈ (setEntry key value entries).map Prod.fst ↔ k = key ∨ k ∈ entries.map Prod.fst := by
  fun_induction setEntry key value entries <;> grind

theorem nodup_keys_setEntry [DecidableEq κ] {key : κ} {value : ν} {entries : List (κ × ν)}
    (h : (entries.map Prod.fst).Nodup) : ((setEntry key value entries).map Prod.fst).Nodup := by
  fun_induction setEntry key value entries with
  | case1 => simp
  | case2 v rest => simpa using h
  | case3 k v rest hk ih =>
    simp only [List.map_cons, List.nodup_cons] at h ⊢
    refine ⟨fun hm => ?_, ih h.2⟩
    rcases mem_keys_setEntry.1 hm with rfl | hm
    · exact hk rfl
    · exact h.1 hm

/-- Entries with distinct keys. -/
structure Dictionary (κ ν : Type) where
  entries : List (κ × ν)
  distinct : (entries.map Prod.fst).Nodup

namespace Dictionary

/-- The dictionary without entries. -/
def empty : Dictionary κ ν := ⟨[], List.nodup_nil⟩

instance : EmptyCollection (Dictionary κ ν) := ⟨empty⟩

instance : Inhabited (Dictionary κ ν) := ⟨empty⟩

variable [DecidableEq κ]

/-- The dictionary with `key` set to `value`. -/
def insert (d : Dictionary κ ν) (key : κ) (value : ν) : Dictionary κ ν :=
  ⟨setEntry key value d.entries, nodup_keys_setEntry d.distinct⟩

/-- The dictionary of some entries; of entries with one key the last counts. -/
def ofList (entries : List (κ × ν)) : Dictionary κ ν :=
  entries.foldl (fun d e => d.insert e.1 e.2) empty

/-- The value of `key`. -/
def get? (d : Dictionary κ ν) (key : κ) : Option ν := findValue? key d.entries

/-- Whether some entry has the key. -/
def contains (d : Dictionary κ ν) (key : κ) : Bool := (d.get? key).isSome

omit [DecidableEq κ] in
/-- The keys in the order of the entries. -/
def keys (d : Dictionary κ ν) : List κ := d.entries.map Prod.fst

omit [DecidableEq κ] in
/-- The number of entries. -/
def size (d : Dictionary κ ν) : Nat := d.entries.length

end Dictionary

end Provision
