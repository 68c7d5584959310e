import Provision.Shell.Arithmetic
import Provision.Shell.Builtin.Options

/-!
# Commands that steer

Commands after which the shell does not go on with the next one, and a few that only calculate.
-/

namespace Provision.Shell

/-- A number that a command of the plain shell is given. -/
def plainNumber (command : String) (w : Bytes) : Act Nat := do
  if !w.isEmpty && w.all Char.isDigit then return State.digitsNumber w
  else
    complain (command ++ ": Illegal number: " ++ shown w)
    leaveShell 2

/-- The words after two dashes, if the first one is two dashes. -/
def afterDashes : List Bytes → List Bytes
  | ['-', '-'] :: rest => rest
  | args => args

/-- A command is given more than it takes, which ends the shell. -/
def refuseMore (command : String) : Act α := do
  complain (command ++ ": too many arguments")
  leaveShell 1

/-- The word is no number. -/
def refuseNumber (command : String) (w : Bytes) : Act Unit :=
  complain (command ++ ": " ++ shown w ++ ": numeric argument required")

/-- Leaves loops or goes on with their next round. -/
def loopCommand (command : String) (flow : Nat → Flow) (args : List Bytes) : Act Unit := do
  let s ← get
  match s.dialect with
  | .plain =>
    let n ←
      match args with
      | [] => pure 1
      | w :: _ =>
        let n ← plainNumber command w
        if n = 0 then
          complain (command ++ ": Illegal number: " ++ shown w)
          leaveShell 2
        pure n
    ends 0
    if s.loops ≠ 0 then throw (flow (min n s.loops))
  | .bash =>
    if s.loops = 0 then
      complain (command ++ ": only meaningful in a \x60for', \x60while', or \x60until' loop")
      ends 0
    else
      match afterDashes args with
      | [] =>
        ends 0
        throw (flow 1)
      | w :: more =>
        match wordNumber? w with
        | none =>
          refuseNumber command w
          leaveShell 128
        | some n =>
          if !more.isEmpty then refuseMore command
          if n ≤ 0 then
            complain (command ++ ": " ++ shown w ++ ": loop count out of range")
            ends 1
            throw (.leave s.loops)
          ends 0
          throw (flow (min n.toNat s.loops))

/-- Leaves loops. -/
def breakLoops : List Bytes → Act Unit := loopCommand "break" .leave

/-- Goes on with the next round of loops. -/
def continueLoops : List Bytes → Act Unit := loopCommand "continue" .again

/-- Leaves the shell. -/
def exit (args : List Bytes) : Act Unit := do
  let s ← get
  match s.dialect, afterDashes args with
  | _, [] => throw .exit
  | .plain, w :: _ => leaveShell (← plainNumber "exit" w)
  | .bash, w :: more =>
    match wordNumber? w with
    | none =>
      refuseNumber "exit" w
      leaveShell 2
    | some n =>
      if !more.isEmpty then refuseMore "exit"
      leaveShell (n % 256).toNat

/-- Leaves a function or file. -/
def returnCommand (args : List Bytes) : Act Unit := do
  let s ← get
  match s.dialect, afterDashes args with
  | .plain, [] => throw .back
  | .plain, w :: _ =>
    let n ← plainNumber "return" w
    modify fun s => { s with status := n }
    throw .back
  | .bash, args =>
    if s.calls.isEmpty then
      fail 2 "return: can only \x60return' from a function or sourced script"
    else
      match args with
      | [] => throw .back
      | w :: more =>
        match wordNumber? w with
        | none =>
          refuseNumber "return" w
          ends 2
          throw .back
        | some n =>
          if !more.isEmpty then refuseMore "return"
          ends (n % 256).toNat
          throw .back

/-- Drops positional parameters. -/
def shift (args : List Bytes) : Act Unit := do
  let s ← get
  let drop (n : Nat) : Act Unit := do
    set { s with positional := s.positional.drop n }
    ends 0
  match s.dialect, afterDashes args with
  | .plain, args =>
    let n ←
      match args with
      | [] => pure 1
      | w :: _ => plainNumber "shift" w
    if s.positional.length < n then
      complain "shift: can't shift that many"
      leaveShell 2
    drop n
  | .bash, [] => if s.positional.isEmpty then ends 1 else drop 1
  | .bash, w :: more =>
    match wordNumber? w with
    | none =>
      refuseNumber "shift" w
      ends 1
    | some n =>
      if !more.isEmpty then refuseMore "shift"
      if n < 0 then fail 1 ("shift: " ++ shown w ++ ": shift count out of range")
      else if s.positional.length < n.toNat then
        if s.allows "shift_verbose" then
          fail 1 ("shift: " ++ shown w ++ ": shift count out of range")
        else ends 1
      else drop n.toNat

/-- Calculates; it succeeds if the last value is not zero. -/
def letCommand (args : List Bytes) : Act Unit := do
  match afterDashes args with
  | [] => fail 1 "let: expression expected"
  | args =>
    go args
where
  /-- Calculates one expression after the other. -/
  go : List Bytes → Act Unit
    | [] => pure ()
    | t :: rest => do
      match ← calculate "let: " t with
      | none => ends 1
      | some n =>
        ends (if n = 0 then 1 else 0)
        go rest

end Provision.Shell
