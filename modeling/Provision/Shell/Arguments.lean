import Provision.Shell.Builtin.Declaration
import Provision.Shell.Trace

/-!
# The words and assignments of a command

What a command is given when it runs: its words are expanded, and the assignments before it are made,
for good if there is no command, and else as long as it runs.
-/

namespace Provision.Shell

/-! ## Words -/

/-- The elements of a list that is assigned. -/
def elementsOf (sub : Substitution) (items : List Item) : Act (List Element) := do
  let elements ← items.mapM fun i => do
    match i with
    | .word parts => return (← fieldsOf sub parts).map fun t => ⟨none, false, t⟩
    | .at index append parts =>
      let key ← textOf sub index
      return [⟨some key, append, ← valueOf sub parts⟩]
  return elements.flatten

/-- The index of an assignment. -/
def indexOf (sub : Substitution) (index : Option Word) : Act (Option Bytes) := do
  match index with
  | none => return none
  | some w => return some (← textOf sub w)

/-- An assignment of a text as it is written. -/
def assignmentText (name : Bytes) (index : Option Bytes) (append : Bool) (t : Bytes) : Bytes :=
  name ++ ((index.map fun i => '[' :: i ++ [']']).getD []) ++
    (if append then ['+', '='] else ['=']) ++ t

/-- What a command that declares is given in place of an assignment. -/
def declaredOf (sub : Substitution) (a : Assignment) : Act Declared := do
  match a with
  | .text name index append word =>
    let index ← indexOf sub index
    let t ← valueOf sub word
    return .text (assignmentText name index append t) name index append t
  | .list name append items =>
    return .list (Listing.assignment a) name append (← elementsOf sub items)

/-- What a command is given. -/
def argumentsOf (sub : Substitution) (ws : List Argument) : Act (List Declared) := do
  let ds ← ws.mapM fun w => do
    match w with
    | .word _ parts => return (← fieldsOf sub parts).map Declared.word
    | .assignment _ a _ => return [← declaredOf sub a]
  return ds.flatten

/-! ## Assignments -/

/-- The elements of a list as a trace of a declaration tells them. -/
def tracedElements (es : List Element) : Bytes :=
  let element (e : Element) : Bytes :=
    match e.index with
    | none => Quoting.always e.text
    | some i =>
      '[' :: Quoting.always i ++ [']'] ++ (if e.append then ['+', '='] else ['=']) ++
        Quoting.always e.text
  '(' :: Listing.spaced (es.map element) ++ [')']

/-- Makes an assignment for good, and tells it; it may end the line. -/
def assignForGood (sub : Substitution) (a : Assignment) : Act Unit := do
  match a with
  | .text name index append word =>
    match (← get).dialect with
    | .plain =>
      let t ← valueOf sub word
      assignPlain name t
    | .bash =>
      let key ← indexOf sub index
      let t ← valueOf sub word
      trace sub (assignmentText name key append (tracedValue .bash t))
      if !(← assign "" name key append t) then leaveLine 1
  | .list name append items =>
    let es ← elementsOf sub items
    trace sub (Listing.assignment a)
    if !(← assignList "" name append es) then leaveLine 1

/-- Makes assignments that last as long as a command runs: the variables that hold meanwhile. -/
def assignForNow (sub : Substitution) (as : List Assignment) : Act Frame := do
  let s ← get
  let frame ← go [] as
  modify fun t => { t with frames := s.frames }
  return frame
where
  /-- Makes one assignment after the other, each seen by those after it. -/
  go (frame : Frame) : List Assignment → Act Frame
    | [] => pure frame
    | a :: rest => do
      match a with
      | .text name _ append word =>
        let t ← valueOf sub word
        let s ← get
        let old := ((s.variableOf name).bind fun v => v.value.scalar).getD []
        let attributes := ((s.variableOf name).map Variable.attributes).getD .none
        if s.dialect = .bash then
          trace sub (assignmentText name none append (tracedValue .bash t))
        if s.isReadOnly name then
          match s.dialect with
          | .bash => complain (shown name ++ ": readonly variable")
          | .plain =>
            complain (shown name ++ ": is read only")
            leaveShell 2
          go frame rest
        else
          let t ← attributes.takes "" (some old) append t
          let v : Variable := ⟨.text t, { attributes with exported := true }⟩
          let frame := frame.put name v
          modify fun s => { s with frames := [(name, v)] :: s.frames }
          go frame rest
      | .list _ _ _ => go frame rest

end Provision.Shell
