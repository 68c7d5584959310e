import Provision.Shell.Builtin.Directory
import Provision.Shell.Builtin.Signal
import Provision.Shell.Floating
import Provision.Shell.Start
import Provision.Shell.Tool.File

/-!
# Programs that start others

With another environment, for a time, or with words that are read.
-/

namespace Provision.Shell.Tool

/-- How programs start others: it tells why that cannot be done. -/
abbrev Starter := List Bytes → Act (Option FileFault)

/-- Starts a program; says so if that cannot be done. -/
def startOr (start : Starter) (words : List Bytes) (refuse : String → Act Unit) : Act Unit := do
  match ← start words with
  | none => pure ()
  | some f =>
    refuse f.reason
    ends (if f = .absent || f = .noInterpreter then 127 else 126)

/-! ## Environments -/

/-- The variables that a program is given, as it tells them. -/
def environmentLines (s : State) (ending : Char) : Bytes :=
  s.exported.flatMap fun (n, v) => n ++ '=' :: (v.value.scalar.getD []) ++ [ending]

/-- The words of a text with quotes. -/
def splitWords (t : Bytes) : List Bytes :=
  let rec go : Nat → Option Char → Option Bytes → Bytes → List Bytes
    | 0, _, _, _ => []
    | _ + 1, _, begun, [] => (begun.map List.reverse).toList
    | fuel + 1, some q, begun, c :: rest =>
      if c = q then go fuel none (some (begun.getD [])) rest
      else go fuel (some q) (some (c :: begun.getD [])) rest
    | fuel + 1, none, begun, c :: rest =>
      if c = ' ' || c = '\t' || c = '\n' then
        (begun.map List.reverse).toList ++ go fuel none none rest
      else if c = '\'' || c = '"' then go fuel (some c) (some (begun.getD [])) rest
      else if c = '\\' then
        match rest with
        | d :: rest => go fuel none (some (d :: begun.getD [])) rest
        | [] => (begun.map List.reverse).toList
      else go fuel none (some (c :: begun.getD [])) rest
  go (t.length + 1) none none t

/-- Runs a program with another environment, or writes the environment. -/
def env (start : Starter) : Tool := fun who args =>
  withWords who 125
    [flag 'i' "ignore-environment", flag '0' "null", valued 'u' "unset", valued 'C' "chdir",
      valued 'S' "split-string", flag 'v' "debug", longOnly "block-signal" .perhaps,
      longOnly "default-signal" .perhaps, longOnly "ignore-signal" .perhaps] true args fun w => do
    let operands := ((w.value? "S").map splitWords).getD [] ++ w.operands
    let dash := operands.head? = some ['-']
    let operands := if dash then operands.drop 1 else operands
    if w.has "i" || dash then modify fun s => { s with frames := [[]] }
    w.options.forM fun o =>
      match o.1, o.2 with
      | "u", some name => modify fun s => { s with frames := eraseIn s.frames name }
      | _, _ => pure ()
    let isAssignment (t : Bytes) : Bool := t.contains '='
    let assigned := operands.takeWhile isAssignment
    let words := operands.drop assigned.length
    assigned.forM fun t =>
      let name := t.takeWhile (· ≠ '=')
      modify fun s => { s with
        frames := putIn s.frames name
          ⟨.text (t.drop (name.length + 1)), { Attributes.none with exported := true }⟩ }
    match words, w.value? "C" with
    | [], some _ => misused who 125 "must specify command with --chdir (-C)"
    | [], none =>
      output who (environmentLines (← get) (if w.has "0" then '\x00' else '\n')) 0
    | words, dir =>
      if w.has "0" then misused who 125 "cannot specify --null (-0) with command"
      else
        let s ← get
        let place : Except FileFault Place :=
          match dir with
          | none => .ok s.here
          | some d =>
            match s.find d with
            | .ok .directory => s.locate d
            | .ok _ => .error .notDirectory
            | .error f => .error f
        match place with
        | .error f =>
          fail who 125 ("cannot change directory to " ++ quoted (dir.getD []) ++ ": " ++ f.reason)
        | .ok here =>
          modify fun s => { s with here, path := if dir.isSome then Place.path here else s.path }
          startOr start words fun why =>
            complain who (quoted ((words.head?).getD []) ++ ": " ++ why)

/-- Writes the environment or some of it. -/
def printenv : Tool := fun who args =>
  withWords who 2 [flag '0' "null"] true args fun w => do
    let ending := if w.has "0" then '\x00' else '\n'
    let s ← get
    if w.operands.isEmpty then output who (environmentLines s ending) 0
    else
      let found := w.operands.map fun n => (s.exported.find? n).bind fun v => v.value.scalar
      put who (found.flatMap fun t =>
        match t with
        | some t => t ++ [ending]
        | none => [])
      ends (statusOf (found.all Option.isSome))

/-! ## Times -/

/-- The milliseconds that a text stands for. -/
def interval? (t : Bytes) : Option Nat :=
  let (number, unit) :=
    match t.getLast? with
    | some c => if c = 's' || c = 'm' || c = 'h' || c = 'd' then (t.dropLast, c) else (t, 's')
    | none => (t, 's')
  let factor := match unit with
    | 'm' => 60
    | 'h' => 3600
    | 'd' => 86400
    | _ => 1
  if number.head? = some '-' then none
  else
    match Floating.read 64 number with
    | some (.finite _ a b, []) => some ((a * 1000 * factor + b - 1) / b)
    | some (.infinite false, []) => some never
    | _ => none

/-- Lets a time pass. -/
def pause (milliseconds : Nat) : Act Unit := do
  let s ← get
  match ← passTo (s.machine.clock + milliseconds) with
  | some n => throw (.killed n s.process)
  | none => if never ≤ milliseconds then throw .stuck

/-- Waits. -/
def sleep : Tool := fun who args =>
  withWords who 1 [] false args fun w => do
    if w.operands.isEmpty then missesOperand who 1
    else
      let intervals := w.operands.map interval?
      let wrong := w.operands.filter fun t => (interval? t).isNone
      if wrong.isEmpty then
        pause ((intervals.filterMap id).foldl (· + ·) 0)
        ends 0
      else
        wrong.forM fun t => complain who ("invalid time interval " ++ quotedText t)
        seeHelp who 1

/-- Runs a program for a time at most. -/
def timeout (start : Starter) : Tool := fun who args =>
  withWords who 125
    [longOnly "foreground" .nothing, valued 'k' "kill-after", longOnly "preserve-status" .nothing,
      valued 's' "signal", flag 'v' "verbose"] true args fun w => do
    match w.operands with
    | [] | [_] => seeHelp who 125
    | limit :: words =>
      match interval? limit, (w.value? "s").map (signalOf? .bash) with
      | none, _ => misused who 125 ("invalid time interval " ++ quotedText limit)
      | some _, some none =>
        misused who 125 (quotedText ((w.value? "s").getD []) ++ ": invalid signal")
      | some limit, signal =>
        let signal := (signal.join).getD 15
        let s ← get
        let before := s.machine.budget
        let budget := min before 20000
        set { s with machine := { s.machine with budget } }
        let r ← attempt (startOr start words fun why =>
          complain who ("failed to run command " ++ quoted ((words.head?).getD []) ++ ": " ++ why))
        modify fun t => { t with
          machine := { t.machine with budget := before - (budget - t.machine.budget) } }
        let t ← get
        let deadline := s.machine.clock + limit
        let stuck : Bool :=
          match r with
          | .error .stuck => true
          | _ => false
        if limit ≠ 0 && (stuck || deadline < t.machine.clock) then
          let late (c : Chunk) : Bool := s.process < c.process && deadline < c.instant
          let streams := t.machine.streams.map fun st =>
            match st with
            | .kept chunks => .kept (chunks.filter (!late ·))
            | st => st
          set { t with machine := { t.machine with clock := deadline, streams } }
          if w.has "v" then
            complain who ("sending signal " ++ (signalName? signal).getD "TERM" ++ " to command " ++
              quoted ((words.head?).getD []))
          if signal = 9 then throw (.killed 9 s.process)
          else ends (if w.has "preserve-status" then 128 + signal else 124)
        else
          match r with
          | .ok _ => pure ()
          | .error flow => throw flow

/-! ## Other circumstances -/

/-- Runs a program that goes on when nobody listens. -/
def nohup (start : Starter) : Tool := fun who args => do
  match if args.head? = some ['-', '-'] then args.drop 1 else args with
  | [] => missesOperand who 125
  | words =>
    startOr start words fun why =>
      complain who ("failed to run command " ++ quoted ((words.head?).getD []) ++ ": " ++ why)

/-- Runs a program that is less in a hurry, or tells how much it would be. -/
def nice (start : Starter) : Tool := fun who args =>
  let isCount (w : Bytes) : Bool :=
    match w with
    | '-' :: c :: _ => c.isDigit
    | _ => false
  let args :=
    match args with
    | w :: rest => if isCount w then ['-', 'n'] :: w.drop 1 :: rest else args
    | [] => []
  withWords who 125 [valued 'n' "adjustment"] true args fun w => do
    let s ← get
    let adjustment : Option Int :=
      match w.value? "n" with
      | none => some 10
      | some ('-' :: t) => (number? t).map fun n => -(n : Int)
      | some ('+' :: t) => (number? t).map fun n => (n : Int)
      | some t => (number? t).map fun n => (n : Int)
    match adjustment, w.operands with
    | none, _ => fail who 125 ("invalid adjustment " ++ quotedText ((w.value? "n").getD []))
    | some _, [] => output who ((toString s.niceness).toList ++ ['\n']) 0
    | some n, words =>
      modify fun s => { s with niceness := (max 0 (min 19 ((s.niceness : Int) + n))).toNat }
      startOr start words fun why => complain who (quoted ((words.head?).getD []) ++ ": " ++ why)

/-- Runs a program as the leader of others. -/
def setsid (start : Starter) : Tool := fun who args =>
  withWords who 1 [flag 'c' "ctty", flag 'f' "fork", flag 'w' "wait"] true args fun w => do
    match w.operands with
    | [] => fail who 1 "no command specified"
    | words =>
      startOr start words fun why =>
        complain who ("failed to execute " ++ shown ((words.head?).getD []) ++ ": " ++ why)

/-- Runs a program whose streams are kept in another way. -/
def stdbuf (start : Starter) : Tool := fun who args =>
  withWords who 125 [valued 'i' "input", valued 'o' "output", valued 'e' "error"] true args fun w => do
    match w.operands with
    | [] => missesOperand who 125
    | words =>
      startOr start words fun why =>
        complain who ("failed to run command " ++ quoted ((words.head?).getD []) ++ ": " ++ why)

/-! ## Words that are read -/

/-- How words are read: what separates them, whether quotes mean anything, and whether a line is a
single one. -/
structure WordReading where
  separator : Option Char
  wholeLines : Bool

/-- The words of some input, with whether a line ends behind each; or what is wrong with it. -/
def wordsRead (r : WordReading) (t : Bytes) : Except String (List (Bytes × Bool)) :=
  match r.separator with
  | some c => .ok ((pieces c false t).map fun w => (w, true))
  | none =>
    let isBlank (c : Char) : Bool := c = ' ' || c = '\t'
    let rec go : Nat → Option Char → Option Bytes → Bytes → Except String (List (Bytes × Bool))
      | 0, _, _, _ => .ok []
      | _ + 1, some q, _, [] =>
        .error ("unmatched " ++ (if q = '"' then "double" else "single") ++
          " quote; by default quotes are special to xargs unless you use the -0 option")
      | _ + 1, none, begun, [] => .ok ((begun.map fun b => (b.reverse, true)).toList)
      | fuel + 1, some q, begun, c :: rest =>
        if c = q then go fuel none (some (begun.getD [])) rest
        else if c = '\n' then
          .error ("unmatched " ++ (if q = '"' then "double" else "single") ++
            " quote; by default quotes are special to xargs unless you use the -0 option")
        else go fuel (some q) (some (c :: begun.getD [])) rest
      | fuel + 1, none, begun, c :: rest =>
        if c = '\n' then
          match begun with
          | some b => (go fuel none none rest).map ((b.reverse, true) :: ·)
          | none => go fuel none none rest
        else if isBlank c && (!r.wholeLines || begun.isNone) then
          match begun with
          | some b =>
            (go fuel none none rest).map ((b.reverse, (rest.dropWhile isBlank).head? = some '\n') :: ·)
          | none => go fuel none none rest
        else if c = '\'' || c = '"' then go fuel (some c) (some (begun.getD [])) rest
        else if c = '\\' then
          match rest with
          | d :: rest => go fuel none (some (d :: begun.getD [])) rest
          | [] => .ok ((begun.map fun b => (b.reverse, true)).toList)
        else go fuel none (some (c :: begun.getD [])) rest
    go (t.length + 1) none none t

/-- Words in groups of so many. -/
def groupsBy (n : Nat) : Nat → List α → List (List α)
  | 0, _ => []
  | fuel + 1, ws => if ws.isEmpty then [] else ws.take n :: groupsBy n fuel (ws.drop n)

/-- Words in groups of so many lines. -/
def groupsByLines (n : Nat) (ws : List (Bytes × Bool)) : List (List Bytes) :=
  let step (s : List (List Bytes) × List Bytes × Nat) (w : Bytes × Bool) :
      List (List Bytes) × List Bytes × Nat :=
    let (done, begun, lines) := s
    let begun := w.1 :: begun
    if w.2 then
      if lines + 1 = n then (begun.reverse :: done, [], 0) else (done, begun, lines + 1)
    else (done, begun, lines)
  let (done, begun, _) := ws.foldl step ([], [], 0)
  (if begun.isEmpty then done else begun.reverse :: done).reverse

/-- A text with another one in place of a mark. -/
def filledIn (mark value : Bytes) : Nat → Bytes → Bytes
  | 0, t => t
  | _ + 1, [] => []
  | fuel + 1, c :: rest =>
    if !mark.isEmpty && mark.isPrefixOf (c :: rest) then
      value ++ filledIn mark value fuel ((c :: rest).drop mark.length)
    else c :: filledIn mark value fuel rest

/-- Runs a program with words that are read. -/
def xargs (start : Starter) : Tool := fun who args =>
  withWords who 1
    [flag '0' "null", valued 'a' "arg-file", valued 'd' "delimiter", valued 'E' "",
      ⟨some 'e', "eof", .perhaps⟩, valued 'I' "", ⟨some 'i', "replace", .perhaps⟩, valued 'L' "",
      ⟨some 'l', "max-lines", .perhaps⟩, valued 'n' "max-args", flag 'o' "open-tty",
      flag 'p' "interactive", valued 'P' "max-procs", flag 'r' "no-run-if-empty",
      valued 's' "max-chars", flag 't' "verbose", flag 'x' "exit",
      longOnly "show-limits" .nothing] true args fun w => do
    let mark? : Option Bytes :=
      if w.has "I" then w.value? "I"
      else if w.has "i" then some ((w.value? "i").getD ['\x7b', '\x7d'])
      else none
    let separator : Option Char :=
      if w.has "0" then some '\x00'
      else
        match w.value? "d" with
        | some ['\\', 'n'] => some '\n'
        | some ['\\', 't'] => some '\t'
        | some ['\\', '0'] => some '\x00'
        | some (c :: _) => some c
        | _ => none
    let positive (key : String) : Act (Option Nat) := do
      match w.value? key with
      | none => return none
      | some t =>
        match number? t with
        | some 0 =>
          complain who ("value 0 for -" ++ key ++ " option should be >= 1")
          seeHelp who 1
          throw .exit
        | some n => return some n
        | none =>
          complain who ("invalid number \"" ++ shown t ++ "\" for -" ++ key ++ " option")
          seeHelp who 1
          throw .exit
    let most ← positive "n"
    let lines ← positive "L"
    let source := (w.value? "a").getD ['-']
    let input ←
      match ← contentOf source with
      | .ok t => pure t
      | .error f =>
        if source = ['-'] then pure []
        else
          complain who ("Cannot open input file " ++ quoted source ++ ": " ++ f.reason)
          leaveShell 1
    match wordsRead ⟨separator, mark?.isSome⟩ input with
    | .error e => fail who 1 e
    | .ok read =>
      let read :=
        match w.value? "E" with
        | some stop => read.takeWhile fun r => r.1 ≠ stop
        | none => read
      let command := if w.operands.isEmpty then ["echo".toList] else w.operands
      let commands : List (List Bytes) :=
        match mark? with
        | some mark =>
          read.map fun (v, _) => command.map fun t => filledIn mark v (t.length + 1) t
        | none =>
          let groups :=
            match lines, most with
            | some n, _ => groupsByLines n read
            | none, some n => groupsBy n (read.length + 1) (read.map Prod.fst)
            | none, none => if read.isEmpty then [] else [read.map Prod.fst]
          let groups := if groups.isEmpty && !w.has "r" then [[]] else groups
          groups.map (command ++ ·)
      let (null, machine) := (← get).machine.opened (.device .null)
      modify fun s => { s with machine }.lead 0 null
      let rec run (worst : Nat) : List (List Bytes) → Act Nat
        | [] => return worst
        | words :: rest => do
          if w.has "t" then sayLine (shown ([' '].intercalate words))
          match ← start words with
          | some f =>
            let name := (words.head?).getD []
            complain who (shown name ++ ": " ++ f.reason)
            return (if f = .absent then 127 else 126)
          | none =>
            let status := (← get).status
            if status = 255 then
              complain who (shown ((words.head?).getD []) ++ ": exited with status 255; aborting")
              return 124
            else if 128 < status then
              complain who (shown ((words.head?).getD []) ++ ": terminated by signal " ++
                toString (status - 128))
              return 125
            else run (if status = 0 then worst else 123) rest
      ends (← run 0 commands)

end Provision.Shell.Tool
