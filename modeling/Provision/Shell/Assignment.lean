import Provision.Shell.Arithmetic

/-!
# Assignments

How variables take on values: a variable may evaluate them, change their case, or refuse them.
-/

namespace Provision.Shell

/-- A text in the case of a variable. -/
def Attributes.cased (a : Attributes) (t : Bytes) : Bytes :=
  if a.upper then t.map Char.toUpper
  else if a.lower then t.map Char.toLower
  else if a.capital then
    match t with
    | c :: rest => c.toUpper :: rest.map Char.toLower
    | [] => []
  else t

/-- The value of an expression of an assignment, without which the shell ends. -/
def requireNumber (who : String) (cs : Bytes) : Act Int := do
  match ← calculate who cs with
  | some n => return n
  | none => leaveShell 1

/-- The text that a variable takes on, after its old one if that is kept. -/
def Attributes.takes (a : Attributes) (who : String) (old : Option Bytes) (append : Bool)
    (t : Bytes) : Act Bytes := do
  if a.integer then
    let n ← requireNumber who t
    if append then
      let m ← requireNumber who (old.getD [])
      return intText (wrap (m + n))
    return intText n
  return a.cased (if append then old.getD [] ++ t else t)

/-- The number of an element by its index; none after a diagnostic. -/
def elementOf (who : String) (label : Bytes) (v : Value) (index : Bytes) : Act (Option Nat) := do
  let i ← requireNumber who index
  match v.position? i with
  | some n => return some n
  | none =>
    complain (shown label ++ ": bad array subscript")
    return none

/-- The name of an element. -/
def elementLabel (name index : Bytes) : Bytes := name ++ '[' :: index ++ [']']

/-- A variable takes on a text; tells whether it did. -/
def assign (who : String) (name : Bytes) (index : Option Bytes) (append : Bool) (t : Bytes) :
    Act Bool := do
  let s ← get
  if s.isReadOnly name then
    complain (shown (s.target name) ++ ": readonly variable")
    return false
  let v := findIn s.frames (s.target name)
  let attributes := (v.map Variable.attributes).getD .none
  let value := (v.map Variable.value).getD .unset
  if name = "OPTIND".toList then modify fun s => { s with clusterAt := 0 }
  match index with
  | none =>
    let t ← attributes.takes who value.scalar append t
    modify fun s => s.setText name t
    return true
  | some [] =>
    complain (shown name ++ "[]: bad array subscript")
    return false
  | some index =>
    let label := elementLabel name index
    match value with
    | .keyed _ =>
      let t ← attributes.takes who (value.key? index) append t
      modify fun s => s.put name ⟨value.putKey index t, attributes⟩
      return true
    | _ =>
      match ← elementOf who label value index with
      | none => return false
      | some i =>
        let t ← attributes.takes who (value.at? i) append t
        modify fun s => s.put name ⟨value.putAt i t, attributes⟩
        return true

/-- An element of a list that is assigned: its index, whether its old text is kept, and its text. -/
structure Element where
  index : Option Bytes
  append : Bool
  text : Bytes

/-- The elements of a list by numbers, from a number on. -/
def putElements (who : String) (name : Bytes) (a : Attributes) : Nat → Value → List Element →
    Act (Option Value)
  | _, v, [] => return some v
  | next, v, e :: es => do
    match e.index with
    | none =>
      let t ← a.takes who (v.at? next) false e.text
      putElements who name a (next + 1) (v.putAt next t) es
    | some [] =>
      complain ("[]=" ++ shown e.text ++ ": bad array subscript")
      putElements who name a next v es
    | some index =>
      match ← elementOf who (elementLabel name index) v index with
      | none => return none
      | some i =>
        let t ← a.takes who (v.at? i) e.append e.text
        putElements who name a (i + 1) (v.putAt i t) es

/-- The elements of a list by keys. -/
def putKeys (who : String) (name : Bytes) (a : Attributes) : Value → List Element → Act Value
  | v, [] => return v
  | v, e :: es => do
    match e.index with
    | some [] =>
      complain ("[]=" ++ shown e.text ++ ": bad array subscript")
      putKeys who name a v es
    | some key =>
      let t ← a.takes who (v.key? key) e.append e.text
      putKeys who name a (v.putKey key t) es
    | none =>
      complain (shown name ++ ": " ++ shown e.text ++
        ": must use subscript when assigning associative array")
      putKeys who name a v es

/-- Keys and texts one after the other as elements. -/
def pairs : List Element → List Element
  | [] => []
  | [k] => [⟨some k.text, false, []⟩]
  | k :: t :: rest => ⟨some k.text, false, t.text⟩ :: pairs rest

/-- A variable takes on a list; tells whether it did. -/
def assignList (who : String) (name : Bytes) (append : Bool) (elements : List Element) :
    Act Bool := do
  let s ← get
  if s.isReadOnly name then
    complain (shown (s.target name) ++ ": readonly variable")
    return false
  let v := findIn s.frames (s.target name)
  let attributes := (v.map Variable.attributes).getD .none
  let value := (v.map Variable.value).getD .unset
  match value with
  | .keyed old =>
    let es :=
      match elements with
      | ⟨none, _, _⟩ :: _ => pairs elements
      | es => es
    let new ← putKeys who name attributes (.keyed (if append then old else [])) es
    modify fun s => s.put name ⟨new, { attributes with bare := false }⟩
    return true
  | value =>
    let old := if append then value.elements else []
    let next := ((old.getLast?).map fun e => e.1 + 1).getD 0
    match ← putElements who name attributes next (.indexed old) elements with
    | none => return false
    | some new =>
      modify fun s => s.put name ⟨new, { attributes with bare := false }⟩
      return true

/-- A variable takes on a text in a plain shell, where a fault ends the script. -/
def assignPlain (name t : Bytes) : Act Unit := do
  if (← get).isReadOnly name then
    complain (shown name ++ ": is read only")
    leaveShell 2
  modify fun s => s.setText name t

/-- A variable takes on a text, whatever the shell; tells whether it did. -/
def assignText (who : String) (name t : Bytes) : Act Bool := do
  match (← get).dialect with
  | .bash => assign who name none false t
  | .plain =>
    assignPlain name t
    return true

end Provision.Shell
