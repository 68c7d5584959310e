import Provision.Shell.Arguments
import Provision.Shell.Builtin.Control
import Provision.Shell.Builtin.Directory
import Provision.Shell.Builtin.Input
import Provision.Shell.Builtin.Lookup
import Provision.Shell.Builtin.Settings
import Provision.Shell.Start
import Provision.Shell.Subshell
import Provision.Shell.Test
import Provision.Shell.Tool.Table

/-!
# Commands by their names

How a command runs whose words are known: a function of the script, a command of the shell, or a
program. Programs and other shells know no more of a shell than it exports.
-/

namespace Provision.Shell

/-- How a shell runs what it reads. -/
abbrev Run := Command → Act Unit

/-! ## Texts -/

/-- Runs something that is counted and named in its own way, and deeper in traces; whatever becomes
of it, the shell goes on as before. -/
def withOwnLines (deeper : Bool) (prepare : State → State) (body : Act α) : Act α := do
  let s ← get
  set (prepare { s with
    shift := 0, traceDepth := if deeper then s.traceDepth + 1 else s.traceDepth })
  let r ← attempt body
  modify fun t => { t with
    shift := s.shift, traceDepth := s.traceDepth, origin := s.origin, home := s.home
    calls := s.calls, line := s.line }
  match r with
  | .ok a => return a
  | .error flow => throw flow

/-- Runs the commands of a text. -/
def evaluate (run : Run) (text : Bytes) : Act Unit := do
  let s ← get
  ends 0
  let name (s : State) : State := if s.dialect = .plain then { s with origin := "eval".toList } else s
  let complete ← withOwnLines true name (runText run "eval: " true s.line text)
  if !complete && s.dialect = .plain then leaveShell 2

/-- The path of a file of commands: from here, or in a directory where programs are. -/
def scriptPath? (s : State) (name : Bytes) : Option Bytes :=
  if name.contains '/' then some name
  else
    let found := (s.searchPath.map fun dir => dir ++ '/' :: name).find? fun path =>
      (s.node? path).isSome
    match found with
    | some path => some path
    | none => if s.dialect = .bash && (s.find name).toOption.isSome then some name else none

/-- Runs the commands of a file in this shell. -/
def sourceFile (run : Run) (command : String) (args : List Bytes) : Act Unit := do
  let s ← get
  let plain := s.dialect = .plain
  let body (name : Bytes) (words : List Bytes) : Act Unit := do
    let s ← get
    let missing : Act Unit := do
      if plain then
        if name.contains '/' then failSpecial 2 (".: cannot open " ++ shown name ++ ": No such file")
        else failSpecial 2 (".: " ++ shown name ++ ": not found")
      else fail 1 (shown name ++ ": No such file or directory")
    match scriptPath? s name with
    | none => missing
    | some path =>
      match s.find path with
      | .ok .directory =>
        if plain then ends 0
        else fail 1 (command ++ ": " ++ shown name ++ ": is a directory")
      | .error f =>
        if plain then missing else fail 1 (shown name ++ ": " ++ f.reason)
      | .ok _ =>
        match ← readFile path with
        | .error _ => missing
        | .ok text =>
          ends 0
          if !words.isEmpty then modify fun s => { s with positional := words }
          let enter (t : State) : State :=
            { t with
              origin := path, home := path, loops := t.loops
              calls := ⟨"source".toList, path, s.line, false⟩ :: t.calls }
          let context := if plain then shown path ++ ": " else ""
          let r ← attempt (withOwnLines true enter (runText run context true 1 text))
          if !words.isEmpty then modify fun t => { t with positional := s.positional }
          match r with
          | .ok complete => if !complete && plain then leaveShell 2
          | .error .back => pure ()
          | .error flow => throw flow
  if plain then
    match afterDashes args with
    | [] => ends 0
    | name :: _ => body name []
  else
    withOptions command (command ++ " filename [arguments]") "" "" args fun _ rest => do
      match rest with
      | [] =>
        complain (command ++ ": filename argument required")
        usage command (command ++ " filename [arguments]")
      | name :: words => body name words

/-! ## Functions -/

/-- How deep functions can call each other. -/
def mostCalls : Nat := 1200

/-- The traps that a function does not know of. -/
def hiddenInFunctions (s : State) (name : String) : Bool :=
  name = "ERR" && !s.has "errtrace" || (name = "DEBUG" || name = "RETURN") && !s.has "functrace"

/-- Runs a function with variables of its own. -/
def callFunction (run : Run) (name : Bytes) (f : Function) (args : List Bytes) (own : Frame) :
    Act Unit := do
  let s ← get
  if mostCalls < s.calls.length then throw (.killed 11 s.process)
  let hidden := s.traps.filter fun t => hiddenInFunctions s t.1
  set { s with
    positional := args
    calls := ⟨name, f.origin, s.line, true⟩ :: s.calls
    frames := own :: s.frames
    locals := s.frames.length + 1
    loops := 0
    origin := if s.dialect = Dialect.bash then f.origin else s.origin
    home := f.origin
    shift := f.shift
    traps := s.traps.filter fun t => !hiddenInFunctions s t.1 }
  let r ← attempt (run f.body)
  let status := (← get).status
  let flow ←
    match (← get).traps.lookup "RETURN", r with
    | some (c :: action), .ok _ | some (c :: action), .error .back => do
      let line := (← get).line
      match ← attempt (runAction run line (c :: action)) with
      | .ok _ =>
        modify fun t => { t with status }
        pure r
      | .error flow => pure (.error flow)
    | _, r => pure r
  modify fun t => { t with
    positional := s.positional
    calls := s.calls
    frames := t.frames.drop (t.frames.length - s.frames.length)
    locals := s.locals
    loops := s.loops
    origin := s.origin
    home := s.home
    shift := s.shift
    line := s.line
    traps := t.traps ++ hidden.filter fun h => (t.traps.lookup h.1).isNone }
  match flow with
  | .ok _ | .error .back => pure ()
  | .error flow => throw flow

/-! ## Shells -/

/-- What a shell is started to run. -/
inductive Script where
  | text (t : Bytes)
  | file (path : Bytes)
  | input

/-- How a shell is started: the switches that are changed, what it runs, under which name, and its
positional parameters. -/
structure Started where
  changes : List Change
  switches : List (Bool × Bytes)
  script : Script
  name : Bytes
  positional : List Bytes

/-- Why a shell is not started. -/
inductive StartFault where
  | option (o : Bytes)
  | withoutText

/-- What the words mean that a shell is started with. -/
def startedWith (d : Dialect) (name : Bytes) : Nat → List Change → List (Bool × Bytes) → Bool →
    Bool → List Bytes → Except StartFault Started
  | 0, changes, switches, _, _, _ => .ok ⟨changes, switches, .input, name, []⟩
  | fuel + 1, changes, switches, isText, isInput, args =>
    let finish (rest : List Bytes) : Except StartFault Started :=
      if isText then
        match rest with
        | [] => .error .withoutText
        | t :: [] => .ok ⟨changes, switches, .text t, name, []⟩
        | t :: n :: ps => .ok ⟨changes, switches, .text t, n, ps⟩
      else
        match isInput, rest with
        | true, _ | _, [] => .ok ⟨changes, switches, .input, name, rest⟩
        | false, f :: ps => .ok ⟨changes, switches, .file f, f, ps⟩
    match args with
    | ['-', '-'] :: rest | ['-'] :: rest => finish rest
    | ('-' :: '-' :: long) :: rest =>
      if d = .bash && ["norc", "noprofile", "posix", "login", "verbose", "noediting"].contains
          (shown long) then
        startedWith d name fuel changes switches isText isInput rest
      else .error (.option ('-' :: '-' :: long))
    | (sign :: c :: cs) :: rest =>
      if sign = '-' || sign = '+' then
        let on : Bool := sign = '-'
        let letters := c :: cs
        let plain := letters.filter fun c => !(['c', 's', 'o', 'O', 'i', 'l'].contains c)
        match plain.find? fun c => !(switchLetters d).contains c with
        | some c => .error (.option [sign, c])
        | none =>
          let more := plain.map (Change.letter on)
          let isText := isText || letters.contains 'c'
          let isInput := isInput || letters.contains 's'
          match letters.contains 'o', letters.contains 'O' && d = .bash, rest with
          | true, _, n :: rest =>
            startedWith d name fuel (changes ++ more ++ [.option on n]) switches isText isInput rest
          | _, true, n :: rest =>
            startedWith d name fuel (changes ++ more) (switches ++ [(on, n)]) isText isInput rest
          | _, _, rest => startedWith d name fuel (changes ++ more) switches isText isInput rest
      else finish args
    | args => finish args

/-- The words about a file that is no script. -/
def scriptFault (d : Dialect) (name path : Bytes) (f : FileFault) : String :=
  match d with
  | .bash =>
    if f = .isDirectory then shown path ++ ": " ++ shown path ++ ": " ++ f.reason
    else shown name ++ ": " ++ shown path ++ ": " ++ f.reason
  | .plain => shown name ++ ": 0: cannot open " ++ shown path ++ ": No such file"

/-- Changes the switches of a shell that is started; tells whether all mean something. -/
def changeAtStart (d : Dialect) (st : Started) : Act Bool := do
  let known := optionNames d
  let wrong := st.changes.findSome? fun c =>
    match c with
    | .option on n => if known.contains (shown n) then none else some (on, n)
    | _ => none
  let wrongSwitch := st.switches.find? fun e => !switchNames.contains (shown e.2)
  match wrong, wrongSwitch with
  | some (on, n), _ =>
    let s ← get
    match d with
    | .bash =>
      sayLine (shown s.name ++ ": line 0: " ++ shown s.name ++ ": " ++ shown n ++
        ": invalid option name")
    | .plain =>
      sayLine (shown s.name ++ ": 0: Illegal option " ++ (if on then "-o " else "+o ") ++ shown n)
    return false
  | none, some (_, n) =>
    let s ← get
    sayLine (shown s.name ++ ": line 0: " ++ shown n ++ ": invalid shell option name")
    return false
  | none, none =>
    let _ ← makeChanges st.changes
    st.switches.forM fun (on, n) => modify fun s =>
      { s with switches := switched switchNames s.switches (shown n) on }
    return true

/-- Runs what a shell is started to run, as that shell. -/
def runScript (run : Run) (d : Dialect) (name : Bytes) (st : Started) : Act Unit := do
  if !(← changeAtStart d st) then
    ends 2
    return
  let read (text : Bytes) (context : String) : Act Unit := do
    let _ ← runText run context true 1 text
  match st.script with
  | .text t =>
    modify fun s => s.setText "BASH_EXECUTION_STRING".toList t
    read t (if d = .bash then "-c: " else "")
  | .input =>
    modify fun s => { s with home := "main".toList }
    match ← readAll 0 with
    | .ok text => read text ""
    | .error _ => ends 0
  | .file path =>
    modify fun s => { s with
      home := path
      calls := if d = .bash then [⟨"main".toList, path, 0, false⟩] else [] }
    match ← readFile path with
    | .ok text => read text ""
    | .error f =>
      if d = .plain && f = .isDirectory then ends 0
      else
        sayLine (scriptFault d name path f)
        ends (if d = .plain then 2 else if f = .absent then 127 else 126)

/-- Starts a shell with its words. -/
def runShell (run : Run) (d : Dialect) (name : Bytes) (args : List Bytes) : Act Ended := do
  match startedWith d name (args.length + 1) [] [] false false args with
  | .error fault =>
    match d, fault with
    | .bash, .option o => sayLine (shown name ++ ": " ++ shown o ++ ": invalid option")
    | .bash, .withoutText => sayLine (shown name ++ ": -c: option requires an argument")
    | .plain, .option o => sayLine (shown name ++ ": 0: Illegal option " ++ shown o)
    | .plain, .withoutText => sayLine (shown name ++ ": 0: -c requires an argument")
    return ⟨2, none⟩
  | .ok st => inSubshell run false (fun s => s.started d st.name st.positional) (runScript run d name st)

/-! ## Programs -/

/-- The shell of a program's name. -/
def shellOf? (name : String) : Option Dialect :=
  match name with
  | "bash" => some .bash
  | "sh" | "dash" => some .plain
  | _ => none

/-- The program that the first line of a script names, and its argument. -/
def interpreterOf? (text : Bytes) : Option (Bytes × List Bytes) :=
  match text with
  | '#' :: '!' :: rest =>
    let line := rest.takeWhile (· ≠ '\n')
    let isBlank (c : Char) : Bool := c = ' ' || c = '\t'
    let line := ((line.dropWhile isBlank).reverse.dropWhile isBlank).reverse
    let path := line.takeWhile (!isBlank ·)
    let argument := (line.drop path.length).dropWhile isBlank
    if path.isEmpty then none else some (path, if argument.isEmpty then [] else [argument])
  | _ => none

/-- Runs the program at a path under a name; or tells why it cannot be run. A script is run by the
program that it names, or by a shell. -/
def startAt (run : Run) : Nat → Bytes → Bytes → List Bytes → Act (Except FileFault Ended)
  | 0, _, _, _ => return .error .tooManyLinks
  | fuel + 1, path, name, args => do
    let s ← get
    match s.find path with
    | .error f => return .error f
    | .ok .directory => return .error .denied
    | .ok (.file (.program program)) =>
      match shellOf? program with
      | some d => return .ok (← runShell run d name args)
      | none =>
        let starter : Tool.Starter := fun words => do
          match words with
          | [] => return none
          | w :: ws =>
            let s ← get
            match (s.programs w).head? with
            | none =>
              if w.contains '/' then
                match s.find w with
                | .error f => return some f
                | .ok _ => return some .denied
              else return some .absent
            | some path =>
              match ← startAt run fuel path w ws with
              | .error f => return some f
              | .ok ended =>
                ends ended.status
                return none
        match Tool.find? starter program with
        | some tool =>
          let ended ← inSubshell run false id (tool name args)
          let t ← get
          if t.machine.asksTooMuch then
            set { t with machine := { t.machine with asksTooMuch := false } }
            throw .stuck
          return .ok ended
        | none => return .error .absent
    | .ok (.file (.regular n)) =>
      match s.machine.nodes[n]? with
      | none => return .error .absent
      | some node =>
        if node.mode &&& 0o111 = 0 then return .error .denied
        else
          match interpreterOf? node.content with
          | some (interpreter, first) =>
            match ← startAt run fuel interpreter interpreter (first ++ path :: args) with
            | .error .absent => return .error .noInterpreter
            | r => return r
          | none => return .ok (← runShell run s.dialect path (path :: args))
    | .ok (.file _) => return .error .denied

/-- How often programs start each other. -/
def mostStarts : Nat := 100

/-- Says that a signal has ended a command. -/
def tellSignal (text : Bytes) (signal : Nat) : Act Unit := do
  let s ← get
  match s.dialect with
  | .bash =>
    if signal = 15 then sayLine (signalText signal)
    else if signal ≠ 2 && signal ≠ 13 then
      let name := signalText signal
      let blanks := String.ofList (List.replicate (24 - name.length) ' ')
      complain (toString s.machine.lastProcess ++ " " ++ name ++ blanks ++ shown text)
  | .plain => if signal ≠ 2 && signal ≠ 13 then sayLine (signalText signal)

/-- A program cannot be run. -/
def refuseProgram (who : String) (name path : Bytes) (f : FileFault) : Act Unit := do
  let s ← get
  let isDirectory : Bool :=
    match s.find path with
    | .ok .directory => true
    | _ => false
  match s.dialect with
  | .bash =>
    if isDirectory then
      complain (shown path ++ ": Is a directory")
      if who ≠ "" then complain (who ++ shown path ++ ": cannot execute: Is a directory")
      ends 126
    else
      match f with
      | .absent => fail 127 (shown path ++ ": No such file or directory")
      | .noInterpreter => fail 127 (shown path ++ ": cannot execute: required file not found")
      | f => fail 126 (shown path ++ ": " ++ f.reason)
  | .plain =>
    match f with
    | .absent | .noInterpreter | .notDirectory => fail 127 (who ++ shown name ++ ": not found")
    | _ => fail 126 (who ++ shown name ++ ": Permission denied")

/-- Why the programs of a name cannot be run. -/
def whyNotFound (s : State) (name : Bytes) : Option Bytes :=
  (s.searchPath.map fun dir => if dir.isEmpty then "./".toList ++ name else dir ++ '/' :: name).find?
    fun path =>
      match s.find path with
      | .ok (.file _) => true
      | _ => false

/-- Runs a program with its words; `who` starts the diagnostics of the command that runs it. -/
def runProgram (run : Run) (who : String) (shownAs : Bytes) (words : List Bytes) : Act Unit := do
  match words with
  | [] => ends 0
  | name :: args =>
    settle run
    let s ← get
    let start (path : Bytes) : Act Unit := do
      match ← startAt run mostStarts path shownAs args with
      | .error f => refuseProgram who name path f
      | .ok ended =>
        ends ended.status
        match ended.signal with
        | some n => tellSignal (Listing.ofCommand s.current) n
        | none => pure ()
    if name.contains '/' then start name
    else
      match s.program? name with
      | some path =>
        modify fun s => s.remembers name path 1
        start path
      | none =>
        match whyNotFound s name with
        | some path => refuseProgram who name path .denied
        | none =>
          match s.dialect with
          | .plain => fail 127 (who ++ shown name ++ ": not found")
          | .bash =>
            if (s.parameter? "PATH".toList).all List.isEmpty then
              fail 127 (who ++ shown name ++ ": No such file or directory")
            else
              match s.functions.lookup "command_not_found_handle".toList with
              | some f =>
                let ended ← inSubshell run false id
                  (callFunction run "command_not_found_handle".toList f (name :: args) [])
                ends ended.status
              | none =>
                if who = "" then fail 127 (shown name ++ ": command not found")
                else fail 127 (who ++ shown name ++ ": not found")

/-! ## Commands of the shell -/

/-- How `exec` is used. -/
def execForm : String := "exec [-cl] [-a name] [command [argument ...]] [redirection ...]"

/-- Becomes a program. -/
def execProgram (run : Run) (args : List Bytes) : Act Unit := do
  let s ← get
  let body (name : Option Bytes) (words : List Bytes) : Act Unit := do
    match words with
    | [] => ends 0
    | w :: _ =>
      let saved := (← get).traps
      modify fun s => { s with traps := s.traps.filter fun t => t.1 ≠ "EXIT" }
      let found := w.contains '/' || (s.program? w).isSome
      if found then
        runProgram run "exec: " (name.getD w) words
        let t ← get
        let failed := s.dialect = .bash && (t.status = 126 || t.status = 127) && s.allows "execfail"
        if failed then modify fun t => { t with traps := saved } else throw .exit
      else
        modify fun t => { t with traps := saved }
        complain ("exec: " ++ shown w ++ ": not found")
        leaveShell 127
  match s.dialect with
  | .plain => body none (afterDashes args)
  | .bash =>
    withOptions "exec" execForm "cl" "a" args fun os words => body (optionValue os 'a') words

mutual

/-- Runs a command of the shell. -/
def runBuiltin (run : Run) : Nat → String → List Declared → Act Unit
  | 0, _, _ => ends 1
  | fuel + 1, name, ds => do
    let args := ds.map Declared.raw
    match name with
    | ":" | "true" => ends 0
    | "false" => ends 1
    | "." | "source" => sourceFile run name args
    | "[" | "test" => ends (← Test.run name args)
    | "alias" => setAliases args
    | "bg" | "fg" | "suspend" => withoutControl name
    | "break" => breakLoops args
    | "builtin" => onlyBuiltin run fuel ds
    | "caller" => caller args
    | "cd" | "chdir" => cd args
    | "command" => withoutFunctions run fuel ds
    | "continue" => continueLoops args
    | "declare" | "typeset" | "local" | "export" | "readonly" => declareAs name ds
    | "dirs" => dirs args
    | "disown" =>
      settle run
      disown args
    | "echo" => echo args
    | "enable" => enable args
    | "eval" =>
      match (← get).dialect, args with
      | .bash, ['-', c] :: _ =>
        if c = '-' then evaluate run (Listing.spaced (args.drop 1))
        else
          complain ("eval: -" ++ String.singleton c ++ ": invalid option")
          usage "eval" "eval [arg ...]"
      | _, _ => evaluate run (Listing.spaced (afterDashes args))
    | "exec" => execProgram run args
    | "exit" => exit args
    | "getopts" => getopts args
    | "hash" => hash args
    | "help" =>
      match args with
      | w :: _ =>
        if (← get).isBuiltin w then ends 0
        else
          let n := shown w
          fail 1 ("help: no help topics match \x60" ++ n ++ "'.  Try \x60help help' or \x60man -k " ++
            n ++ "' or \x60info " ++ n ++ "'.")
      | [] => ends 0
    | "jobs" =>
      settle run
      jobs args
    | "kill" =>
      settle run
      kill args
    | "let" => letCommand args
    | "logout" => fail 1 "logout: not login shell: use \x60exit'"
    | "mapfile" | "readarray" => mapfile name args
    | "popd" => popd args
    | "printf" => printf args
    | "pushd" => pushd args
    | "pwd" => pwd args
    | "read" => read args
    | "return" => returnCommand args
    | "set" => setCommand args
    | "shift" => shift args
    | "shopt" => shopt args
    | "times" => times
    | "trap" => trap args
    | "type" => type args
    | "ulimit" => ulimit args
    | "umask" => umask args
    | "unalias" => unalias args
    | "unset" => unset args
    | "wait" =>
      settle run
      wait args
    | _ => ends 0

/-- Runs a command of the shell and nothing else. -/
def onlyBuiltin (run : Run) : Nat → List Declared → Act Unit
  | 0, _ => ends 1
  | fuel + 1, ds => do
    match ds with
    | [] => ends 0
    | .word ['-', '-'] :: rest => onlyBuiltin run fuel rest
    | d :: rest =>
      let name := d.raw
      if (← get).isBuiltin name then runBuiltin run fuel (shown name) rest
      else if name.head? = some '-' && name.length > 1 then
        complain ("builtin: " ++ shown (name.take 2) ++ ": invalid option")
        usage "builtin" "builtin [shell-builtin [arg ...]]"
      else fail 1 ("builtin: " ++ shown name ++ ": not a shell builtin")

/-- Runs a command that is no function, or tells what a name leads to. -/
def withoutFunctions (run : Run) : Nat → List Declared → Act Unit
  | 0, _ => ends 1
  | fuel + 1, ds => do
    let letters := (ds.takeWhile isOption).flatMap fun d => d.raw.drop 1
    let rest := ds.dropWhile isOption
    let rest :=
      match rest with
      | .word ['-', '-'] :: rest => rest
      | rest => rest
    let s ← get
    match letters.find? fun c => !(['p', 'v', 'V'].contains c) with
    | some c => refuseOptions "command" "command [-pVv] command [arg ...]" (.unknown ['-', c])
    | none =>
      if letters.contains 'v' then lookUp false (rest.map Declared.raw)
      else if letters.contains 'V' then lookUp true (rest.map Declared.raw)
      else
        match rest with
        | [] => ends 0
        | d :: args =>
          let name := d.raw
          if s.isBuiltin name then runBuiltin run fuel (shown name) args
          else runProgram run "" name (rest.map Declared.raw)
where
  /-- Whether a word is an option of this command. -/
  isOption (d : Declared) : Bool :=
    match d with
    | .word ('-' :: c :: _) => c ≠ '-'
    | _ => false

end

end Provision.Shell
