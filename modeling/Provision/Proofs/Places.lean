import Provision.Proofs.Decoding
import Provision.Proofs.SortedMembers
import Provision.Proofs.Utf8

/-!
# Places in a value

A path leads down from a value to one of the values in it, step by step: to an item by its index, to
a member by its name (`Json.at?`). `Json.Before` is the order in which a traversal comes by the
paths of a value: items by index, members by the bytes of their names, and all of a value before
what comes after it.

Values that were read list their members in ascending order (`canonical_of_parse`), so that a
traversal in the order of the members is one in the order of their names.
-/

namespace Provision.Json

/-! ## Induction on values -/

/-- What is true of every container when it is true of all that it holds is true of all values. -/
@[elab_as_elim]
theorem induction {P : Json → Prop} (null : P .null) (bool : ∀ b, P (.bool b))
    (number : ∀ n, P (.number n)) (string : ∀ s, P (.string s))
    (array : ∀ items, (∀ j ∈ items, P j) → P (.array items))
    (object : ∀ members, (∀ m ∈ members, P m.2) → P (.object members)) (j : Json) : P j :=
  @Json.rec P (fun items => ∀ j ∈ items, P j) (fun members => ∀ m ∈ members, P m.2)
    (fun m => P m.2) null bool number string array object
    (fun _ h => absurd h List.not_mem_nil) (fun _ _ hj hjs => List.forall_mem_cons.2 ⟨hj, hjs⟩)
    (fun _ h => absurd h List.not_mem_nil) (fun _ _ hm hms => List.forall_mem_cons.2 ⟨hm, hms⟩)
    (fun _ _ hj => hj) j

/-! ## Paths -/

/-- One step down into a value. -/
inductive Place where
  | item (i : Nat)
  | member (name : String)
  deriving DecidableEq

/-- What stands one step down. -/
def child? : Json → Place → Option Json
  | .array items, .item i => items[i]?
  | .object members, .member name => findValue? name members
  | _, _ => none

/-- What stands at the end of a path. -/
def at? : Json → List Place → Option Json
  | j, [] => some j
  | j, place :: path => (j.child? place).bind fun k => k.at? path

theorem at?_cons (j : Json) (place : Place) (path : List Place) :
    j.at? (place :: path) = (j.child? place).bind fun k => k.at? path := rfl

/-- One path comes before another: where they part, its item has the smaller index, or the name of
its member the lesser bytes. -/
inductive Before : List Place → List Place → Prop
  | item {i i' : Nat} {path path' : List Place} (h : i < i') :
    Before (.item i :: path) (.item i' :: path')
  | member {name name' : String} {path path' : List Place}
    (h : Text.encode name < Text.encode name') :
    Before (.member name :: path) (.member name' :: path')
  | within {place : Place} {path path' : List Place} (h : Before path path') :
    Before (place :: path) (place :: path')

theorem Before.asymm {path path' : List Place} (h : Before path path') : ¬ Before path' path := by
  induction h with
  | item h =>
    rintro (h' | _ | h')
    · exact Nat.lt_asymm h h'
    · exact Nat.lt_irrefl _ h
  | member h =>
    rintro (_ | h' | h')
    · exact List.lt_asymm h h'
    · exact List.lt_irrefl _ h
  | within _ ih =>
    rintro (h' | h' | h')
    · exact Nat.lt_irrefl _ h'
    · exact List.lt_irrefl _ h'
    · exact ih h'

/-! ## Values that were read -/

mutual

/-- A document has a value whose members are sorted. -/
theorem canonical_of_toJson : ∀ {n : Node} {j : Json}, n.toJson = .ok j → Canonical j
  | .null _, _, h | .bool _ _, _, h | .number _ _, _, h | .string _ _, _, h => by
    obtain rfl := Except.ok.inj h
    trivial
  | .array _ items ending, _, h => by
    rw [Node.toJson] at h
    obtain ⟨js, hjs, h⟩ := bind_eq_ok.1 h
    cases ending with
    | cut m => cases h
    | closed _ | inside =>
      obtain rfl := Except.ok.inj h
      exact canonicalItems_of_itemsToJson hjs
  | .object _ members ending, _, h => by
    rw [Node.toJson] at h
    obtain ⟨ms, hms, h⟩ := bind_eq_ok.1 h
    cases ending with
    | cut m => cases h
    | closed _ | inside =>
      obtain rfl := Except.ok.inj h
      exact canonicalMembers_of_membersToJson hms ascending_nil trivial
  | .broken _ _, _, h => nomatch h

theorem canonicalItems_of_itemsToJson : ∀ {ns : List Node} {js : List Json},
    Node.itemsToJson ns = .ok js → CanonicalItems js
  | [], _, h => by
    obtain rfl := Except.ok.inj h
    trivial
  | n :: ns, _, h => by
    rw [Node.itemsToJson] at h
    obtain ⟨j, hj, h⟩ := bind_eq_ok.1 h
    obtain ⟨js, hjs, h⟩ := bind_eq_ok.1 h
    obtain rfl := Except.ok.inj h
    exact ⟨canonical_of_toJson hj, canonicalItems_of_itemsToJson hjs⟩

theorem canonicalMembers_of_membersToJson : ∀ {members : List (Member Node)}
    {done ms : List (String × Json)}, Node.membersToJson members done = .ok ms →
      Ascending done → CanonicalMembers done → Ascending ms ∧ CanonicalMembers ms
  | [], _, _, h, ha, hc => by
    obtain rfl := Except.ok.inj h
    exact ⟨ha, hc⟩
  | ⟨name, _, value, _⟩ :: members, done, _, h, ha, hc => by
    rw [Node.membersToJson] at h
    obtain ⟨j, hj, h⟩ := bind_eq_ok.1 h
    refine canonicalMembers_of_membersToJson h ha.insertEntry
      (canonicalMembers_iff.2 fun m hm => ?_)
    rcases mem_insertEntry hm with rfl | hm
    · exact canonical_of_toJson hj
    · exact canonicalMembers_iff.1 hc m hm

end

/-- The value of a text has its members sorted. -/
theorem canonical_of_parse {text : String} {j : Json} (h : parse text = .ok j) : Canonical j :=
  canonical_of_toJson (mapError_eq_ok.1 (Shape.decode_of_ofText h))

end Provision.Json
