import Provision.Shell.State

/-!
# Opening files

How paths become streams. Some paths lead to the descriptors of whoever opens them.
-/

namespace Provision.Shell

/-- The descriptor that a path leads to. -/
def descriptorPath? (path : Bytes) : Option Nat :=
  match shown path with
  | "/dev/stdin" => some 0
  | "/dev/stdout" => some 1
  | "/dev/stderr" => some 2
  | p =>
    let digits := path.drop "/dev/fd/".length
    if p.startsWith "/dev/fd/" && !digits.isEmpty && digits.all Char.isDigit then
      some (State.digitsNumber digits)
    else none

/-- Opens a stream. -/
def openStream (stream : Stream) : Act Nat := do
  let s ← get
  let (n, machine) := s.machine.opened stream
  set { s with machine }
  return n

/-- Opens a device. -/
def openDevice (d : Device) : Act (Except FileFault Nat) := do
  match d with
  | .descriptor n =>
    match (← get).stream? n with
    | some stream => return .ok stream
    | none => return .error .absent
  | .terminal => return .error .noDevice
  | d => return .ok (← openStream (.device d))

/-- Opens what is at a path to read it. -/
def openToRead (path : Bytes) : Act (Except FileFault Nat) := do
  let s ← get
  match descriptorPath? path with
  | some n => openDevice (.descriptor n)
  | none =>
    match s.find path with
    | .error f => return .error f
    | .ok .directory => return .ok (← openStream .directory)
    | .ok (.file (.regular node)) => return .ok (← openStream (.file node 0 true false false))
    | .ok (.file (.device d)) => openDevice d
    | .ok (.file _) => return .ok (← openStream (.text "\x7fELF".toList))

/-- The bits of a new file. -/
def State.fileMode (s : State) (mode : Nat) : Nat := mode &&& (0o7777 ^^^ s.umask)

/-- Opens what is at a path to write it; it is made if there is nothing. -/
def openToWrite (path : Bytes) (append reads keepsContent : Bool) : Act (Except FileFault Nat) := do
  let s ← get
  match descriptorPath? path with
  | some n => openDevice (.descriptor n)
  | none =>
    match s.locate path with
    | .error f => return .error f
    | .ok place =>
      match s.machine.files.entryAt place with
      | some .directory => return .error .isDirectory
      | some (.file (.device d)) => openDevice d
      | some (.file (.regular node)) =>
        if !append && !keepsContent then
          modify fun s => { s with machine := s.machine.setContent node [] }
        return .ok (← openStream (.file node 0 reads true append))
      | some (.file _) => return .error .denied
      | none =>
        match s.machine.files.entryAt place.dropLast, path.getLast? with
        | some .directory, some '/' => return .error .isDirectory
        | some .directory, _ =>
          let (node, machine) := s.machine.create place (s.fileMode 0o666)
          set { s with machine }
          return .ok (← openStream (.file node 0 reads true append))
        | some _, _ => return .error .notDirectory
        | none, _ => return .error .absent

/-- The content of the file at a path. -/
def readFile (path : Bytes) : Act (Except FileFault Bytes) := do
  match ← openToRead path with
  | .error f => return .error f
  | .ok stream =>
    let s ← get
    match s.machine.available stream with
    | .ok bytes =>
      set { s with machine := s.machine.consume stream bytes.length }
      return .ok bytes
    | .error f => return .error f

end Provision.Shell
