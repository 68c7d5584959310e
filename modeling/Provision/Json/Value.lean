import Provision.Table
import Provision.Json.Binary64

/-!
# Json values

A number is a natural number of 64 bits, a negative integer of 64 bits or a double; the three are
different values. The members of an object are a list: a value that was read lists them in
ascending order of their names (`Canonical`), an encoder may list them in the order in which it
writes them, and `canonical` sorts them.
-/

namespace Provision

/-- A number of a Json document. -/
inductive Json.Number where
  /-- A natural number. -/
  | natural (n : UInt64)
  /-- The integer `-(n + 1)`. -/
  | negative (n : Fin 0x8000000000000000)
  | double (x : Json.Binary64)
  deriving DecidableEq

/-- A Json value. -/
inductive Json where
  | null
  | bool (b : Bool)
  | number (n : Json.Number)
  | string (s : String)
  | array (items : List Json)
  | object (members : List (String × Json))

namespace Json

instance : Inhabited Json := ⟨.null⟩

mutual

/-- Whether two values are equal, the order of members included. -/
def same : Json → Json → Bool
  | .null, .null => true
  | .bool a, .bool b => a = b
  | .number a, .number b => a = b
  | .string a, .string b => a = b
  | .array a, .array b => sameItems a b
  | .object a, .object b => sameMembers a b
  | _, _ => false

/-- Whether two lists of items are equal. -/
def sameItems : List Json → List Json → Bool
  | [], [] => true
  | a :: as, b :: bs => same a b && sameItems as bs
  | _, _ => false

/-- Whether two lists of members are equal. -/
def sameMembers : List (String × Json) → List (String × Json) → Bool
  | [], [] => true
  | (k, a) :: as, (l, b) :: bs => k = l && same a b && sameMembers as bs
  | _, _ => false

end

mutual

theorem same_iff : ∀ a b : Json, same a b = true ↔ a = b
  | .null, b => by cases b <;> simp [same]
  | .bool _, b => by cases b <;> simp [same]
  | .number _, b => by cases b <;> simp [same]
  | .string _, b => by cases b <;> simp [same]
  | .array as, b => by cases b <;> simp [same, sameItems_iff as]
  | .object as, b => by cases b <;> simp [same, sameMembers_iff as]

theorem sameItems_iff : ∀ as bs : List Json, sameItems as bs = true ↔ as = bs
  | [], bs => by cases bs <;> simp [sameItems]
  | a :: as, bs => by cases bs <;> simp [sameItems, same_iff a, sameItems_iff as]

theorem sameMembers_iff : ∀ as bs : List (String × Json), sameMembers as bs = true ↔ as = bs
  | [], bs => by cases bs <;> simp [sameMembers]
  | (k, a) :: as, bs => by
    cases bs with
    | nil => simp [sameMembers]
    | cons b bs => simp [sameMembers, same_iff a, sameMembers_iff as, Prod.ext_iff]

end

instance : DecidableEq Json := fun a b => decidable_of_iff _ (same_iff a b)

mutual

/-- The value with the members of every object in ascending order; of members with one name the
last counts. -/
def canonical : Json → Json
  | .array items => .array (canonicalItems items)
  | .object members => .object (canonicalMembers members [])
  | j => j

/-- `canonical` of every item. -/
def canonicalItems : List Json → List Json
  | [] => []
  | j :: js => canonical j :: canonicalItems js

/-- The members put into a list of members one by one. -/
def canonicalMembers : List (String × Json) → List (String × Json) → List (String × Json)
  | [], done => done
  | (k, j) :: rest, done => canonicalMembers rest (insertEntry k (canonical j) done)

end

mutual

/-- Every object lists its members in strictly ascending order. -/
def Canonical : Json → Prop
  | .array items => CanonicalItems items
  | .object members => Ascending members ∧ CanonicalMembers members
  | _ => True

/-- `Canonical` for every item. -/
def CanonicalItems : List Json → Prop
  | [] => True
  | j :: js => Canonical j ∧ CanonicalItems js

/-- `Canonical` for the value of every member. -/
def CanonicalMembers : List (String × Json) → Prop
  | [] => True
  | (_, j) :: rest => Canonical j ∧ CanonicalMembers rest

end

mutual

/-- How deep arrays and objects nest. -/
def depth : Json → Nat
  | .array items => depthItems items + 1
  | .object members => depthMembers members + 1
  | _ => 0

/-- The greatest depth of the items. -/
def depthItems : List Json → Nat
  | [] => 0
  | j :: js => max (depth j) (depthItems js)

/-- The greatest depth of the values of the members. -/
def depthMembers : List (String × Json) → Nat
  | [] => 0
  | (_, j) :: rest => max (depth j) (depthMembers rest)

end

/-- The object without members. -/
def emptyObject : Json := .object []

/-- The member of an object; none for any other value. -/
def member? (key : String) : Json → Option Json
  | .object members => findValue? key members
  | _ => none

/-- The text of a string; none for any other value. -/
def text? : Json → Option String
  | .string s => some s
  | _ => none

/-- The number of a natural number. -/
def ofNat (n : UInt64) : Json := .number (.natural n)

/-- The integer `-(n + 1)`, for an `n` of 63 bits. -/
def Number.negSucc (n : Nat) : Number := .negative (Fin.ofNat 0x8000000000000000 n)

/-- The number of an integer of 32 bits. -/
def ofInt32 (i : Int32) : Json :=
  match i.toInt with
  | .ofNat n => .number (.natural n.toUInt64)
  | .negSucc n => .number (.negSucc n)

end Json

end Provision
