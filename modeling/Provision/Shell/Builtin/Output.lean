import Provision.Shell.Assignment
import Provision.Shell.Builtin.Options
import Provision.Shell.Printf

/-!
# Commands that write

`echo` and `printf`.
-/

namespace Provision.Shell

/-- Writes what a command has to say; a fault of the stream makes it fail. -/
def writeOut (name : String) (out : Bytes) (status : Nat) : Act Unit := do
  if out.isEmpty then ends status
  else
    match ← emit 1 out with
    | none => ends status
    | some f =>
      match (← get).dialect with
      | .bash => complain (name ++ ": write error: " ++ f.reason)
      | .plain => complain (name ++ ": " ++ name ++ ": I/O error")
      ends 1

/-- The words of `echo` after its options: whether a line break follows, and whether escapes are
interpreted. -/
def echoOptions (bash : Bool) : List Bytes → Bool → Bool → List Bytes × Bool × Bool
  | [], newline, escapes => ([], newline, escapes)
  | w :: rest, newline, escapes =>
    match w with
    | '-' :: c :: cs =>
      let letters := c :: cs
      if bash then
        if letters.all ['n', 'e', 'E'].contains then
          let escapes := letters.foldl (fun e c => if c = 'e' then true else if c = 'E' then false
            else e) escapes
          echoOptions bash rest (newline && !letters.contains 'n') escapes
        else (w :: rest, newline, escapes)
      else if letters = ['n'] then (rest, false, escapes)
      else (w :: rest, newline, escapes)
    | _ => (w :: rest, newline, escapes)

/-- Writes words. -/
def echo (args : List Bytes) : Act Unit := do
  let s ← get
  let bash := s.dialect = .bash
  let (words, newline, escapes) := echoOptions bash args true (!bash || s.allows "xpg_echo")
  let text := [' '].intercalate words
  let (text, stop) :=
    if escapes then unescapeArgument s.dialect true (text.length + 1) text else (text, false)
  writeOut "echo" (if newline && !stop then text ++ ['\n'] else text) 0

/-- How `printf` is used. -/
def printfForm : String := "printf [-v var] format [arguments]"

/-- The seconds of the clock. -/
def State.now (s : State) : Int := (State.epoch + s.machine.clock / 1000 : Nat)

/-- Keeps a text in a variable, or an element of one. -/
def keepIn (who : String) (target t : Bytes) : Act Bool := do
  let (name, index) := Calculation.nameParts target
  assign who name (index.map Calculation.unquoted) false t

/-- Whether a word names a variable or an element of one. -/
def isTarget (w : Bytes) : Bool :=
  let (name, index) := Calculation.nameParts w
  isName name &&
    (w.length = name.length || index.any fun i => w.length = name.length + i.length + 2)

/-- Writes words in a format. -/
def printf (args : List Bytes) : Act Unit := do
  let s ← get
  match s.dialect with
  | .bash =>
    withOptions "printf" printfForm "" "v" args fun os rest => do
      match optionValue os 'v', rest with
      | some v, _ =>
        if !isTarget v then
          refuseName "printf" v
          ends 2
          return
      | none, _ => pure ()
      match rest with
      | [] => usage "printf" printfForm
      | format :: args =>
        let p := Printf.run .bash s.now format args
        p.complaints.reverse.forM fun text => complain ("printf: " ++ text)
        let status := if p.failed then 1 else 0
        p.stored.reverse.forM fun (name, n) => do
          let _ ← assign "" name none false (toString n).toList
        match optionValue os 'v' with
        | none => writeOut "printf" p.out.reverse.flatten status
        | some v =>
          if ← keepIn "printf: " v p.out.reverse.flatten then ends status else ends 1
  | .plain =>
    withOptions "printf" printfForm "" "" args fun _ rest => do
      match rest with
      | [] =>
        complain "printf: usage: printf format [arg ...]"
        ends 2
      | format :: args =>
        let p := Printf.run .plain s.now format args
        p.complaints.reverse.forM fun text => complain ("printf: " ++ text)
        let refused := p.complaints.head?.any fun t =>
          t.endsWith ": invalid directive" || t = "missing format character"
        writeOut "printf" p.out.reverse.flatten (if refused then 2 else if p.failed then 1 else 0)

end Provision.Shell
