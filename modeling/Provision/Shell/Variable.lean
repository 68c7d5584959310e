import Provision.Shell.Syntax

/-!
# Variables

The values of variables, and the lists of them that functions and commands see. A list by keys is
told in the order of a hash of the keys.
-/

namespace Provision.Shell

/-- The value of a variable. -/
inductive Value where
  | unset
  | text (t : Bytes)
  /-- Texts by numbers, in ascending order. -/
  | indexed (elements : List (Nat × Bytes))
  /-- Texts by keys, latest first. -/
  | keyed (elements : List (Bytes × Bytes))
  deriving DecidableEq, Repr, Inhabited

/-- What is special about a variable. -/
structure Attributes where
  exported : Bool
  readOnly : Bool
  /-- Its values are expressions. -/
  integer : Bool
  lower : Bool
  upper : Bool
  capital : Bool
  /-- Its value names another variable. -/
  reference : Bool
  traced : Bool
  /-- It was declared as a list, and no list was assigned yet. -/
  bare : Bool
  deriving DecidableEq, Repr, Inhabited

/-- Nothing special. -/
def Attributes.none : Attributes := ⟨false, false, false, false, false, false, false, false, false⟩

/-- A variable. -/
structure Variable where
  value : Value
  attributes : Attributes
  deriving Repr, Inhabited

/-- A variable with a text. -/
def Variable.ofText (t : Bytes) : Variable := ⟨.text t, .none⟩

/-- Variables by their names. -/
abbrev Frame := List (Bytes × Variable)

namespace Value

/-- Which of the lists of keys a key belongs to. -/
def bucket (key : Bytes) : Nat :=
  (key.foldl (fun (h : UInt32) c => (h * 16777619) ^^^ UInt32.ofNat c.toNat) 2166136261).toNat % 1024

/-- The keys and texts in the order in which they are told. -/
def ordered (elements : List (Bytes × Bytes)) : List (Bytes × Bytes) :=
  elements.mergeSort fun a b => bucket a.1 ≤ bucket b.1

/-- The indices with their texts, in order. -/
def entries : Value → List (Bytes × Bytes)
  | unset => []
  | text t => [(['0'], t)]
  | indexed elements => elements.map fun (i, t) => ((toString i).toList, t)
  | keyed elements => ordered elements

/-- All texts, in order. -/
def texts (v : Value) : List Bytes := v.entries.map Prod.snd

/-- The text that the value is without an index. -/
def scalar : Value → Option Bytes
  | unset => none
  | text t => some t
  | indexed elements => (elements.find? (·.1 = 0)).map Prod.snd
  | keyed elements => (elements.find? (·.1 = ['0'])).map Prod.snd

/-- The number that an index below zero means, counted from the end. -/
def position? (v : Value) (i : Int) : Option Nat :=
  if 0 ≤ i then some i.toNat
  else
    let size : Int :=
      match v with
      | indexed elements => ((elements.getLast?).map fun e => (e.1 : Int) + 1).getD 0
      | text _ => 1
      | _ => 0
    if 0 ≤ size + i then some (size + i).toNat else none

/-- Elements with one more, or one changed. -/
def insert (i : Nat) (t : Bytes) : List (Nat × Bytes) → List (Nat × Bytes)
  | [] => [(i, t)]
  | (j, u) :: rest =>
    if i < j then (i, t) :: (j, u) :: rest
    else if i = j then (i, t) :: rest
    else (j, u) :: insert i t rest

/-- Texts as a list by numbers. -/
def ofTexts (texts : List Bytes) : Value :=
  indexed (texts.zipIdx.map fun (t, i) => (i, t))

/-- The value as a list by numbers. -/
def elements : Value → List (Nat × Bytes)
  | unset => []
  | text t => [(0, t)]
  | indexed elements => elements
  | keyed elements => elements.map fun (_, t) => (0, t)

/-- The value with a text at a number. -/
def putAt (v : Value) (i : Nat) (t : Bytes) : Value := indexed (insert i t v.elements)

/-- The value with a text under a key. -/
def putKey (v : Value) (key t : Bytes) : Value :=
  match v with
  | keyed elements =>
    if elements.any (·.1 = key) then
      keyed (elements.map fun e => if e.1 = key then (key, t) else e)
    else keyed ((key, t) :: elements)
  | _ => keyed [(key, t)]

/-- The value with its text without an index changed. -/
def putScalar (v : Value) (t : Bytes) : Value :=
  match v with
  | indexed _ => v.putAt 0 t
  | keyed _ => v.putKey ['0'] t
  | _ => text t

/-- The text at a number. -/
def at? (v : Value) (i : Nat) : Option Bytes := (v.elements.find? (·.1 = i)).map Prod.snd

/-- The text under a key. -/
def key? (v : Value) (key : Bytes) : Option Bytes :=
  match v with
  | keyed elements => (elements.find? (·.1 = key)).map Prod.snd
  | _ => none

end Value

namespace Frame

/-- The variable of a name. -/
def find? (f : Frame) (name : Bytes) : Option Variable :=
  (List.find? (fun e => e.1 = name) f).map Prod.snd

/-- The frame with a variable. -/
def put (f : Frame) (name : Bytes) (v : Variable) : Frame :=
  if f.any (·.1 = name) then f.map fun e => if e.1 = name then (name, v) else e
  else (name, v) :: f

/-- The frame without a variable. -/
def erase (f : Frame) (name : Bytes) : Frame := f.filter (·.1 ≠ name)

end Frame

/-- The first variable of a name in some frames. -/
def findIn (frames : List Frame) (name : Bytes) : Option Variable :=
  match frames with
  | [] => none
  | f :: fs => (f.find? name).or (findIn fs name)

/-- Some frames with a variable changed where it is, or put into the last. -/
def putIn (frames : List Frame) (name : Bytes) (v : Variable) : List Frame :=
  match frames with
  | [] => [[(name, v)]]
  | [f] => [f.put name v]
  | f :: fs => if f.any (·.1 = name) then f.put name v :: fs else f :: putIn fs name v

/-- Some frames without the first variable of a name. -/
def eraseIn (frames : List Frame) (name : Bytes) : List Frame :=
  match frames with
  | [] => []
  | f :: fs => if f.any (·.1 = name) then f.erase name :: fs else f :: eraseIn fs name

/-- Some frames with a variable in the one that so many are seen from. -/
def putLocal (count : Nat) (frames : List Frame) (name : Bytes) (v : Variable) : List Frame :=
  frames.modify (frames.length - max count 1) fun f => f.put name v

/-- The variable of a name in the one of some frames that so many are seen from. -/
def findLocal (count : Nat) (frames : List Frame) (name : Bytes) : Option Variable :=
  (frames[frames.length - max count 1]?).bind fun f => f.find? name

/-- The names of all variables with those that are seen, in order of their names. -/
def allIn (frames : List Frame) : List (Bytes × Variable) :=
  let all := frames.flatten
  let names := (all.map Prod.fst).eraseDups.mergeSort fun a b => !(b < a)
  names.filterMap fun n => (findIn frames n).map fun v => (n, v)

end Provision.Shell
