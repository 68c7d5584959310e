import Provision.Shell.Builtin.Lookup
import Provision.Shell.Builtin.Output
import Provision.Shell.Builtin.Signal
import Provision.Shell.Test
import Provision.Shell.Tool.Starting

/-!
# Programs that tell who and where one is

The user, the machine and the paths of programs; and programs that do what commands of the shell do.
-/

namespace Provision.Shell.Tool

/-- Writes a line, if there are no words but options. -/
def fixedLine (line : String) (status : Nat) : Tool := fun who args =>
  withWords who 1 [] false args fun w => do
    match w.operands with
    | extra :: _ => extraOperand who 1 extra
    | [] => output who (line.toList ++ ['\n']) status

/-- Writes who one is. -/
def id : Tool := fun who args =>
  withWords who 1
    [flag 'a' "", flag 'Z' "context", flag 'g' "group", flag 'G' "groups", flag 'n' "name",
      flag 'r' "real", flag 'u' "user", flag 'z' "zero"] false args fun w => do
    let chosen := ["u", "g", "G"].filter w.has
    let line : String :=
      if chosen.isEmpty then "uid=0(root) gid=0(root) groups=0(root)"
      else if w.has "n" then "root" else "0"
    match w.operands.find? fun n => n ≠ "root".toList && n ≠ ['0'] with
    | some n => fail who 1 (quotedText n ++ ": no such user")
    | none =>
      if chosen.length > 1 then fail who 1 "cannot print \"only\" of more than one choice"
      else if chosen.isEmpty && (w.has "n" || w.has "r") then
        fail who 1 "cannot print only names or real IDs in default format"
      else output who (line.toList ++ ['\n']) 0

/-- Writes the groups of users. -/
def groups : Tool := fun who args =>
  withWords who 1 [] false args fun w => do
    if w.operands.isEmpty then output who "root\n".toList 0
    else
      let results ← w.operands.mapM fun n => do
        if n = "root".toList then
          put who "root : root\n".toList
          return true
        else
          complain who (quotedText n ++ ": no such user")
          return false
      ends (statusOf (results.all fun b => b))

/-- Writes what the machine is. -/
def uname : Tool := fun who args =>
  withWords who 1
    [flag 'a' "all", flag 's' "kernel-name", flag 'n' "nodename", flag 'r' "kernel-release",
      flag 'v' "kernel-version", flag 'm' "machine", flag 'p' "processor",
      flag 'i' "hardware-platform", flag 'o' "operating-system"] false args fun w => do
    match w.operands with
    | extra :: _ => extraOperand who 1 extra
    | [] =>
      let fields := [("s", "Linux"), ("n", "localhost"), ("r", "6.8.0"), ("v", "#1 SMP"),
        ("m", "x86_64"), ("p", "x86_64"), ("i", "x86_64"), ("o", "GNU/Linux")]
      let asked := fields.filter fun f => w.has f.1 || w.has "a"
      let asked := if asked.isEmpty then [("s", "Linux")] else asked
      output who ((" ".intercalate (asked.map Prod.snd)).toList ++ ['\n']) 0

/-- Writes the name of the terminal, of which there is none. -/
def tty : Tool := fun who args =>
  withWords who 2 [flag 's' "silent", flag 's' "quiet"] false args fun w => do
    match w.operands with
    | extra :: _ => extraOperand who 2 extra
    | [] => output who (if w.has "s" then [] else "not a tty\n".toList) 1

/-- Writes the number of processors. -/
def nproc : Tool := fun who args =>
  withWords who 1 [longOnly "all" .nothing, longOnly "ignore" .argument] false args fun w => do
    match w.operands with
    | extra :: _ => extraOperand who 1 extra
    | [] => output who "4\n".toList 0

/-- How many bytes are written of a line that is written again and again. -/
def muchOutput : Nat := 262144

/-- Writes a line again and again. -/
def yes : Tool := fun who args => do
  let args := if args.head? = some ['-', '-'] then args.drop 1 else args
  let line := (if args.isEmpty then ['y'] else [' '].intercalate args) ++ ['\n']
  put who (List.replicate (muchOutput / line.length + 1) line).flatten
  throw .stuck

/-- Writes the paths of programs. -/
def which : Tool := fun who args => do
  let s ← get
  let all : Bool := args.head? = some ['-', 'a']
  let names := args.filter fun w => w ≠ ['-', 'a'] && w ≠ ['-', 's']
  if names.isEmpty then ends 1
  else
    let found := names.map fun n =>
      let paths := if n.contains '/' then (if s.isRunnable n then [n] else []) else s.programs n
      if all then paths else paths.take 1
    let silent := args.contains ['-', 's']
    output who (if silent then [] else unlines found.flatten) (statusOf (!found.any List.isEmpty))

/-- Writes the path of the directory one is in. -/
def pwdTool : Tool := fun who args =>
  withWords who 1 [flag 'L' "logical", flag 'P' "physical"] false args fun w => do
    let s ← get
    let logical := s.textOf "PWD"
    let path :=
      if w.last? ["L", "P"] = some "L" && (s.locate logical).toOption = some s.here then logical
      else Place.path s.here
    output who (path ++ ['\n']) 0

/-- Writes its words. -/
def echoTool : Tool := fun who args => do
  let (words, newline, escapes) := echoOptions true args true false
  let text := [' '].intercalate words
  if escapes then
    let (t, stopped) := unescapeArgument .bash true (text.length + 1) text
    output who (t ++ (if newline && !stopped then ['\n'] else [])) 0
  else output who (text ++ (if newline then ['\n'] else [])) 0

/-- What a program says where the shell says it in its own way. -/
def saidOfNumber (text : String) : String :=
  let t := text.toList
  let about (tail said : String) : Option String :=
    if tail.toList.isSuffixOf t then
      some ("'" ++ shown (t.take (t.length - tail.length)) ++ "': " ++ said)
    else none
  (about ": invalid number" "expected a numeric value" <|>
    about ": invalid octal number" "value not completely converted" <|>
    about ": invalid hex number" "value not completely converted").getD text

/-- Writes words in a format. -/
def printfTool : Tool := fun who args => do
  let args := if args.head? = some ['-', '-'] then args.drop 1 else args
  match args with
  | [] => missesOperand who 1
  | format :: words =>
    let s ← get
    let p := Printf.run .bash s.now format words
    put who p.out.reverse.flatten
    p.complaints.reverse.forM fun text => complain who (saidOfNumber text)
    ends (statusOf (!p.failed))

/-- Tests a condition, which a bracket must close if there is one. -/
def testTool (bracket : Bool) : Tool := fun who args => do
  let body (args : List Bytes) : Act Unit := do
    let r ← (Test.ofAll none args).run
    match r with
    | .ok b => ends (statusOf b)
    | .error text =>
      let t := text.toList
      let tail := ": integer expression expected".toList
      let said :=
        if tail.isSuffixOf t then "invalid integer '" ++ shown (t.take (t.length - tail.length)) ++ "'"
        else text
      fail who 2 said
  if bracket then
    if args.getLast? = some [']'] then body args.dropLast else fail who 2 "missing ']'"
  else body args

/-- Sends signals. -/
def killTool : Tool := fun who args => do
  match args with
  | ['-', 'l'] :: n :: _ =>
    match (number? n).bind fun n => signalName? (n % 128) with
    | some name => output who (name.toList ++ ['\n']) 0
    | none =>
      match signalOf? .bash n with
      | some n => output who ((toString n).toList ++ ['\n']) 0
      | none => fail who 1 ("unknown signal name " ++ shown n)
  | args =>
    let s ← get
    let (signal, words) : Option Nat × List Bytes :=
      match args with
      | ['-', 's'] :: n :: rest => (signalOf? .bash n, rest)
      | ('-' :: c :: cs) :: rest =>
        if c = '-' then (some 15, rest) else (signalOf? .bash (c :: cs), rest)
      | args => (some 15, args)
    match signal with
    | none => fail who 1 ("unknown signal name " ++ shown ((args.head?).getD []))
    | some n =>
      let results ← words.mapM fun w => do
        match number? w with
        | none =>
          complain who ("failed to parse argument: '" ++ shown w ++ "'")
          return false
        | some p =>
          if p ≤ s.machine.lastProcess && s.mainProcess ≤ p then
            if n ≠ 0 then
              modify fun s => { s with
                machine := { s.machine with mail := ⟨s.machine.clock, p, n⟩ :: s.machine.mail } }
            return true
          else
            complain who ("(" ++ shown w ++ "): No such process")
            return false
      ends (statusOf (results.all fun b => b))

end Provision.Shell.Tool
