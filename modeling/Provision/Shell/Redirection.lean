import Provision.Shell.Access
import Provision.Shell.Expansion
import Provision.Shell.Written

/-!
# Redirections

Where descriptors lead while a command runs. One that cannot be made keeps the command from running.
-/

namespace Provision.Shell

namespace Redirection

/-- A redirection that cannot be made. -/
def refuse (text : String) : Act Bool := do
  complain text
  return false

/-- The words about a file that cannot be opened. -/
def openFault (dialect : Dialect) (writes : Bool) (path : Bytes) (f : FileFault) : String :=
  match dialect with
  | .bash => shown path ++ ": " ++ f.reason
  | .plain =>
    let why :=
      match f, writes with
      | .absent, true => "Directory nonexistent"
      | .absent, false => "No such file"
      | f, _ => f.reason
    (if writes then "cannot create " else "cannot open ") ++ shown path ++ ": " ++ why

/-- A descriptor leads to a stream that was opened. -/
def leadTo (fd : Nat) (writes : Bool) (path : Bytes) (r : Except FileFault Nat) : Act Bool := do
  match r with
  | .ok stream =>
    modify fun s => s.lead fd stream
    return true
  | .error f => refuse (openFault (← get).dialect writes path f)

/-- Whether a file is there that must not be overwritten. -/
def isProtected (s : State) (path : Bytes) : Bool :=
  s.has "noclobber" && (s.node? path).isSome

/-- A descriptor writes to a path. -/
def write (fd : Nat) (clobber : Bool) (path : Bytes) : Act Bool := do
  let s ← get
  if !clobber && isProtected s path then
    if s.dialect = .bash then refuse (shown path ++ ": cannot overwrite existing file")
    else refuse ("cannot create " ++ shown path ++ ": File exists")
  else leadTo fd true path (← openToWrite path false false false)

/-- The path that a word is; none after a diagnostic. -/
def pathOf (sub : Substitution) (w : Word) : Act (Option Bytes) := do
  match (← get).dialect with
  | .plain => return some (← textOf sub w)
  | .bash =>
    match ← fieldsOf sub w with
    | [path] => return some path
    | _ =>
      complain (shown (written w) ++ ": ambiguous redirect")
      return none

/-- A descriptor becomes the same as the one that a word names; tells if it names none. -/
def duplicate (fd : Nat) (w : Word) (name : Bytes) : Act (Option Bool) := do
  let s ← get
  let moved := name.length > 1 && name.getLast? = some '-'
  let digits := if moved then name.dropLast else name
  if name = ['-'] then
    modify fun s => s.closed fd
    return some true
  else if !digits.isEmpty && digits.all Char.isDigit then
    let source := State.digitsNumber digits
    match s.stream? source with
    | some stream =>
      modify fun s => s.lead fd stream
      if moved then modify fun s => s.closed source
      return some true
    | none => return some (← refuse (shown digits ++ ": Bad file descriptor"))
  else if s.dialect = .plain then
    sayLine (shown s.name ++ ": " ++ toString s.line ++ ": Syntax error: Bad fd number")
    leaveShell 2
  else
    let _ := w
    return none

/-- The first descriptor that leads nowhere, from ten on. -/
def freeDescriptor (s : State) : Nat :=
  ((List.range (s.descriptors.length + 1)).map (· + 10)).find? (fun n => (s.stream? n).isNone)
    |>.getD 10

/-- A descriptor leads where an operator and a word tell. -/
def make (sub : Substitution) (fd : Nat) (d : Direction) (w : Word) : Act Bool := do
  match d with
  | .document index =>
    let body := ((← get).documents[index]?).getD []
    let text ← documentOf sub body
    let stream ← openStream (.text text)
    modify fun s => s.lead fd stream
    return true
  | .text =>
    let text ← textOf sub w
    let stream ← openStream (.text (text ++ ['\n']))
    modify fun s => s.lead fd stream
    return true
  | .duplicateIn | .duplicateOut =>
    match ← pathOf sub w with
    | none => return false
    | some name =>
      match ← duplicate fd w name with
      | some ok => return ok
      | none =>
        if d = .duplicateOut && fd = 1 && !name.isEmpty then
          if ← write 1 false name then
            match (← get).stream? 1 with
            | some stream =>
              modify fun s => s.lead 2 stream
              return true
            | none => return false
          else return false
        else refuse (shown (written w) ++ ": ambiguous redirect")
  | _ =>
    match ← pathOf sub w with
    | none => return false
    | some path =>
      match d with
      | .read => leadTo fd false path (← openToRead path)
      | .write => write fd false path
      | .clobber => write fd true path
      | .append => leadTo fd true path (← openToWrite path true false true)
      | _ => leadTo fd true path (← openToWrite path false true true)

/-- Makes redirections, up to one that cannot be made; tells if all were. -/
def makeAll (sub : Substitution) : List Redirection → Act Bool
  | [] => pure true
  | .mk fd d w :: rest => do
    if ← make sub fd d w then makeAll sub rest else return false
  | .kept name d w :: rest => do
    let s ← get
    let closes : Bool :=
      match w with
      | [.plain ['-']] => d == Direction.duplicateIn || d == Direction.duplicateOut
      | _ => false
    if closes then
      match numberOf ((s.parameter? name).getD []) with
      | some fd => set (s.closed fd)
      | none => pure ()
      makeAll sub rest
    else
      let fd := freeDescriptor s
      if ← make sub fd d w then
        modify fun t => t.setText name (toString fd).toList
        makeAll sub rest
      else return false
  | .both append w :: rest => do
    match ← pathOf sub w with
    | none => return false
    | some path =>
      let ok ←
        if append then leadTo 1 true path (← openToWrite path true false true)
        else write 1 false path
      if !ok then return false
      match (← get).stream? 1 with
      | some stream =>
        modify fun s => s.lead 2 stream
        makeAll sub rest
      | none => return false
where
  /-- The number that digits are. -/
  numberOf (t : Bytes) : Option Nat :=
    if !t.isEmpty && t.all Char.isDigit then some (State.digitsNumber t) else none

end Redirection

end Provision.Shell
