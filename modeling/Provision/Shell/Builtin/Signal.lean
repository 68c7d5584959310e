import Provision.Shell.Builtin.Output
import Provision.Shell.Listing

/-!
# Signals and jobs

Signals are sent to processes, which may have traps for them. A command in the background is a job:
it can be waited for, and it can be killed. What a job would have written after it was killed was
never written.
-/

namespace Provision.Shell

/-! ## Signals -/

/-- The signals with their numbers and what is said of a process that one has ended. -/
def signals : List (Nat × String × String) :=
  [(1, "HUP", "Hangup"), (2, "INT", "Interrupt"), (3, "QUIT", "Quit"),
    (4, "ILL", "Illegal instruction"), (5, "TRAP", "Trace/breakpoint trap"),
    (6, "ABRT", "Aborted"), (7, "BUS", "Bus error"), (8, "FPE", "Floating point exception"),
    (9, "KILL", "Killed"), (10, "USR1", "User defined signal 1"),
    (11, "SEGV", "Segmentation fault"), (12, "USR2", "User defined signal 2"),
    (13, "PIPE", "Broken pipe"), (14, "ALRM", "Alarm clock"), (15, "TERM", "Terminated"),
    (16, "STKFLT", "Stack fault"), (17, "CHLD", "Child exited"), (18, "CONT", "Continued"),
    (19, "STOP", "Stopped (signal)"), (20, "TSTP", "Stopped"), (21, "TTIN", "Stopped (tty input)"),
    (22, "TTOU", "Stopped (tty output)"), (23, "URG", "Urgent I/O condition"),
    (24, "XCPU", "CPU time limit exceeded"), (25, "XFSZ", "File size limit exceeded"),
    (26, "VTALRM", "Virtual timer expired"), (27, "PROF", "Profiling timer expired"),
    (28, "WINCH", "Window changed"), (29, "IO", "I/O possible"), (30, "PWR", "Power failure"),
    (31, "SYS", "Bad system call")] ++
  (List.range 16).map (fun i =>
    (34 + i, if i = 0 then "RTMIN" else "RTMIN+" ++ toString i, "Real-time signal " ++ toString i)) ++
  (List.range 15).map fun i =>
    (50 + i, if i = 14 then "RTMAX" else "RTMAX-" ++ toString (14 - i),
      "Real-time signal " ++ toString (16 + i))

/-- What traps can be for besides signals, with the numbers that order them. -/
def events : Dialect → List (Nat × String)
  | .bash => [(0, "EXIT"), (65, "DEBUG"), (66, "ERR"), (67, "RETURN")]
  | .plain => [(0, "EXIT")]

/-- The name of a signal by its number. -/
def signalName? (n : Nat) : Option String := (signals.lookup n).map Prod.fst

/-- The number of a signal by its name. -/
def signalNumber? (name : String) : Option Nat := (signals.find? (·.2.1 = name)).map Prod.fst

/-- What is said of a process that a signal has ended. -/
def signalText (n : Nat) : String :=
  ((signals.lookup n).map Prod.snd).getD ("Unknown signal " ++ toString n)

/-- Upper case letters. -/
def upperText (w : Bytes) : String := String.ofList (w.map Char.toUpper)

/-- The number that a word means that names a signal, or gives its number. -/
def signalOf? (d : Dialect) (w : Bytes) : Option Nat :=
  if !w.isEmpty && w.all Char.isDigit then
    let n := State.digitsNumber w
    if n ≤ 64 then some n else none
  else
    let name := upperText w
    let short := if d = .bash && name.startsWith "SIG" then String.ofList (name.toList.drop 3)
      else name
    if name = "EXIT" then some 0
    else if d = .plain && short = "16" then some 16
    else signalNumber? short

/-- The name that a trap is kept under. -/
def trapName? (d : Dialect) (w : Bytes) : Option String :=
  let name := upperText w
  match (events d).find? fun e => e.2 = name || (toString e.1 = name && e.1 = 0) with
  | some e => some e.2
  | none => (signalOf? d w).bind fun n => if n = 0 then some "EXIT" else signalName? n

/-- The number that orders traps. -/
def trapOrder (name : String) : Nat :=
  match (events .bash).find? (·.2 = name) with
  | some e => e.1
  | none => (signalNumber? name).getD 0

/-- Whether a signal that nobody asked for is passed over. -/
def isPassedOver (n : Nat) : Bool := [17, 18, 23, 28].contains n

/-- Whether a signal stops a process that did not ask for it. -/
def stops (n : Nat) : Bool := [19, 20, 21, 22].contains n

/-- The shell receives a signal: there may be a trap for it, or it ends the shell. -/
def receive (n : Nat) : Act Unit := do
  let s ← get
  let deadly : Act Unit := do
    if isPassedOver n || n = 0 || n = 3 && s.dialect = .bash then pure ()
    else if stops n then throw .stuck
    else throw (.killed n s.process)
  match signalName? n with
  | none => deadly
  | some name =>
    if n = 9 || n = 19 then deadly
    else
      match s.traps.lookup name with
      | none => deadly
      | some [] => pure ()
      | some _ => set { s with pending := name :: s.pending }

/-- The shell receives the signals that were sent to it up to now. -/
def readMail : Act Unit := do
  let s ← get
  if s.machine.mail.isEmpty then pure ()
  else
    let isMine (m : Mail) : Bool := m.process = s.process && m.instant ≤ s.machine.clock
    let mine := s.machine.mail.reverse.filter isMine
    set { s with machine := { s.machine with mail := s.machine.mail.filter (!isMine ·) } }
    mine.forM fun m => receive m.signal

/-- Time passes up to an instant, unless a signal with a trap comes before; that signal. -/
def passTo (instant : Nat) : Act (Option Nat) := do
  let s ← get
  let mine := (s.machine.mail.filter fun m => m.process = s.process && m.instant ≤ instant).mergeSort
    fun a b => a.instant ≤ b.instant
  let counts (m : Mail) : Bool :=
    match (signalName? m.signal).bind fun n => s.traps.lookup n with
    | some [] => false
    | some _ => true
    | none => !isPassedOver m.signal
  match mine.find? counts with
  | some m =>
    set { s with machine := s.machine.passTo m.instant }
    readMail
    return some m.signal
  | none =>
    set { s with machine := s.machine.passTo instant }
    return none

/-! ## Traps -/

/-- How `trap` is used. -/
def trapForm : String := "trap [-lp] [[arg] signal_spec ...]"

/-- All signals in columns. -/
def signalTable : String :=
  let cell (e : Nat × String × String) : String :=
    (if e.1 < 10 then " " else "") ++ toString e.1 ++ ") SIG" ++ e.2.1
  String.join (signals.zipIdx.map fun (e, i) =>
    cell e ++ (if i % 5 = 4 then "\n" else "\t")) ++ "\n"

/-- A trap as it is listed. -/
def trapListing (d : Dialect) (name : String) (action : Bytes) : Bytes :=
  let shownName := if d = .bash && (signalNumber? name).isSome then "SIG" ++ name else name
  let quoted :=
    match d with
    | .bash => Quoting.single action
    | .plain => Quoting.plainSingle action
  "trap -- ".toList ++ quoted ++ ' ' :: shownName.toList ++ ['\n']

/-- The traps that are shown, in order. -/
def State.trapsInOrder (s : State) : List (String × Bytes) :=
  let hidden := s.shownTraps.filter fun t => (s.traps.lookup t.1).isNone
  (s.traps ++ hidden).mergeSort fun a b => trapOrder a.1 ≤ trapOrder b.1

/-- Sets traps, one for every name; tells whether all names mean something. -/
def setTraps (action : Option Bytes) (names : List Bytes) : Act Bool := do
  let oks ← names.mapM fun w => do
    let s ← get
    match trapName? s.dialect w with
    | none =>
      match s.dialect with
      | .bash => complain ("trap: " ++ shown w ++ ": invalid signal specification")
      | .plain => sayLine ("trap: " ++ shown w ++ ": bad trap")
      return false
    | some name =>
      let others := s.traps.filter (·.1 ≠ name)
      let traps :=
        match action with
        | none => others
        | some a => (name, a) :: others
      let shownTraps := s.shownTraps.filter (·.1 ≠ name)
      set { s with traps, shownTraps }
      return true
  return oks.all id

/-- Sets or shows traps. -/
def trap (args : List Bytes) : Act Unit := do
  let plain := (← get).dialect = .plain
  withOptions "trap" trapForm (if plain then "" else "lp") "" args fun os rest => do
    let s ← get
    if hasOption os 'l' then
      let _ ← emit 1 signalTable.toList
      ends 0
    else if hasOption os 'p' || rest.isEmpty then
      let named := rest.map fun w => (w, trapName? s.dialect w)
      let bad := named.filter fun e => e.2.isNone
      bad.forM fun e => complain ("trap: " ++ shown e.1 ++ ": invalid signal specification")
      let chosen :=
        if rest.isEmpty then s.trapsInOrder
        else named.filterMap fun e => e.2.bind fun n =>
          (s.trapsInOrder.lookup n).map fun a => (n, a)
      let _ ← emit 1 (chosen.flatMap fun (n, a) => trapListing s.dialect n a)
      ends (if bad.isEmpty then 0 else 1)
    else
      match rest with
      | [w] =>
        let isReset : Bool := (trapName? s.dialect w).isSome
        if isReset then ends (if ← setTraps none [w] then 0 else 1)
        else if plain then
          let _ ← setTraps none [w]
          ends 1
        else usage "trap" trapForm
      | action :: names =>
        if !action.isEmpty && action.all Char.isDigit then
          ends (if ← setTraps none rest then 0 else 1)
        else
          ends (if ← setTraps (if action = ['-'] then none else some action) names then 0 else 1)
      | [] => ends 0

/-! ## Jobs -/

/-- Whether a job is still running. -/
def Job.isRunning (j : Job) (now : Nat) : Bool := now < j.finish

/-- The state with a job changed. -/
def State.changeJob (s : State) (process : Nat) (change : Job → Job) : State :=
  { s with jobs := s.jobs.map fun j => if j.process = process then change j else j }

/-- Whether a process belongs to a job. -/
def Job.owns (j : Job) (process : Nat) : Bool :=
  process = j.process || (j.first ≤ process && process ≤ j.last)

/-- The machine without what a job does after an instant. -/
def Machine.silence (m : Machine) (j : Job) (instant : Nat) : Machine :=
  let keep (c : Chunk) : Bool := !(j.owns c.process && instant < c.instant)
  let streams := m.streams.map fun st =>
    match st with
    | .kept chunks => .kept (chunks.filter keep)
    | st => st
  let holders := m.holders.map fun h =>
    if j.owns h.process then { h with finish := min h.finish instant } else h
  { m with streams, holders }

/-- A job receives a signal. -/
def killJob (j : Job) (n : Nat) : Act Unit := do
  let s ← get
  if n = 0 || isPassedOver n then pure ()
  else if stops n then set (s.changeJob j.process fun j => { j with finish := never })
  else
    let now := s.machine.clock
    let s := s.changeJob j.process fun j => { j with status := 128 + n, finish := now }
    set { s with machine := s.machine.silence j now }

/-- The job that a word with a percent sign means. -/
def State.jobOf? (s : State) (w : Bytes) : Option Job :=
  let known := s.jobs.filter fun j => !j.heard
  match w with
  | '%' :: rest =>
    if !rest.isEmpty && rest.all Char.isDigit then
      known.find? (·.number = State.digitsNumber rest)
    else if rest.isEmpty || rest = ['+'] || rest = ['%'] then known.getLast?
    else if rest = ['-'] then (known.dropLast.getLast?).or known.getLast?
    else known.find? fun j => rest.isPrefixOf j.text
  | _ => none

/-- How `kill` is used. -/
def killForm : String :=
  "kill [-s sigspec | -n signum | -sigspec] pid | jobspec ... or kill -l [sigspec]"

/-- How `kill` is used in the plain shell. -/
def plainKillForm : String :=
  "Usage: kill [-s sigspec | -signum | -sigspec] [pid | job]... or\nkill -l [exitstatus]"

/-- Sends a signal to what a word means; tells whether there was something. -/
def sendTo (n : Nat) (w : Bytes) : Act Bool := do
  let s ← get
  let plain := s.dialect = .plain
  let refuse (text : String) : Act Bool := do
    complain ("kill: " ++ text)
    return false
  let missing : Act Bool := do
    if plain then
      complain "kill: No such process\n"
      return false
    else refuse ("(" ++ shown w ++ ") - No such process")
  if w.head? = some '%' then
    match s.jobOf? w with
    | some j =>
      killJob j n
      return true
    | none => refuse (if plain then "No such job: " ++ shown w else shown w ++ ": no such job")
  else
    match wordNumber? w with
    | none =>
      if plain then refuse ("Illegal number: " ++ shown w)
      else if w.isEmpty then refuse "\x60': not a pid or valid job spec"
      else refuse (shown w ++ ": arguments must be process or job IDs")
    | some p =>
      let process := p.toNat
      if p = s.process || p = 0 then
        receive n
        return true
      else if p < 0 then missing
      else
        match s.jobs.find? fun j => j.process = process with
        | some j =>
          if j.isRunning s.machine.clock || !j.heard && n = 0 then
            killJob j n
            return true
          else missing
        | none =>
          if process = s.mainProcess || process = 1 then
            if n ≠ 0 && process ≠ 1 then
              set { s with
                machine := { s.machine with mail := ⟨s.machine.clock, process, n⟩ :: s.machine.mail } }
            return true
          else missing

/-- Sends a signal to processes and jobs. -/
def sendToAll (n : Nat) (words : List Bytes) : Act Unit := do
  let plain := (← get).dialect = .plain
  match words with
  | [] =>
    if plain then fail 2 ("kill: " ++ plainKillForm)
    else usage "kill" killForm
  | words =>
    let oks ← words.mapM (sendTo n)
    let isNumber (w : Bytes) : Bool := (wordNumber? w).isSome
    if plain then ends (if oks.all id then 0 else if words.all isNumber then 1 else 2)
    else ends (if oks.any id then 0 else 1)

/-- Tells the names of signals by their numbers, and their numbers by their names. -/
def tellSignals (words : List Bytes) : Act Unit := do
  let d := (← get).dialect
  match words, d with
  | [], .bash =>
    let _ ← emit 1 signalTable.toList
    ends 0
  | [], .plain =>
    let numbers := List.range 65
    let _ ← emit 1 (String.join (numbers.map fun n =>
      (if n = 16 then "16" else (signalName? n).getD (toString n)) ++ "\n")).toList
    ends 0
  | words, .bash =>
    let oks ← words.mapM fun w => do
      let told : Option String :=
        if w.all Char.isDigit && !w.isEmpty then
          let n := State.digitsNumber w
          let n := if 128 < n then n - 128 else n
          if n = 0 then some "EXIT" else signalName? n
        else (signalOf? .bash w).map toString
      match told with
      | some t =>
        let _ ← emit 1 (t ++ "\n").toList
        return true
      | none =>
        complain ("kill: " ++ shown w ++ ": invalid signal specification")
        return false
    ends (if oks.all id then 0 else 1)
  | w :: _, .plain =>
    if !w.all Char.isDigit then fail 2 ("kill: Illegal number: " ++ shown w)
    else
      let n := State.digitsNumber w
      match signalName? (if 128 < n then n - 128 else n) with
      | some name =>
        let _ ← emit 1 (name ++ "\n").toList
        ends 0
      | none => fail 2 ("kill: invalid signal number or exit status: " ++ shown w)

/-- Sends signals. -/
def kill (args : List Bytes) : Act Unit := do
  let d := (← get).dialect
  let plain := d = .plain
  let refuse (w : Bytes) : Act Unit :=
    if plain then fail 2 ("kill: invalid signal number or name: " ++ shown w)
    else fail 1 ("kill: " ++ shown w ++ ": invalid signal specification")
  let needed (o : String) : Act Unit :=
    if plain then fail 2 ("kill: No arg for " ++ o ++ " option")
    else fail 1 ("kill: " ++ o ++ ": option requires an argument")
  let afterDashes (words : List Bytes) : List Bytes :=
    if words.head? = some ['-', '-'] then words.drop 1 else words
  match args with
  | ['-', 'l'] :: rest => tellSignals rest
  | ['-', 'L'] :: rest => if plain then fail 2 "kill: Illegal option -L" else tellSignals rest
  | ['-', 's'] :: rest =>
    match rest with
    | w :: words =>
      match signalOf? d w with
      | some n => sendToAll n (afterDashes words)
      | none => refuse w
    | [] => needed "-s"
  | ['-', 'n'] :: rest =>
    if plain then fail 2 "kill: Illegal option -n"
    else
      match rest with
      | w :: words =>
        match signalOf? d w with
        | some n => sendToAll n (afterDashes words)
        | none => refuse w
      | [] => needed "-n"
  | ['-', '-'] :: words => sendToAll 15 words
  | ('-' :: c :: cs) :: words =>
    match signalOf? d (c :: cs) with
    | some n => sendToAll n (afterDashes words)
    | none =>
      if plain then fail 2 ("kill: Illegal option -" ++ String.singleton c) else refuse (c :: cs)
  | words => sendToAll 15 words

/-! ## Waiting -/

/-- Says that a signal has ended a job, unless that was to be expected. -/
def tellEnd (j : Job) : Act Unit := do
  let s ← get
  let n := j.status - 128
  if s.dialect = .bash && 128 < j.status && n < 65 && !([2, 13, 15].contains n) then
    let text := signalText n
    let blanks := String.ofList (List.replicate (24 - text.length) ' ')
    complain (toString j.process ++ " " ++ text ++ blanks ++ shown j.text)

/-- Waits for a job; its status. -/
def waitForJob (j : Job) : Act Nat := do
  if never ≤ j.finish then throw .stuck
  match ← passTo j.finish with
  | some n => return 128 + n
  | none =>
    if !j.heard then tellEnd j
    modify fun s => s.changeJob j.process fun j => { j with heard := true }
    return j.status

/-- Waits for what words mean; the status of the last one. -/
def waitForAll : List Bytes → Nat → Act Nat
  | [], status => pure status
  | w :: ws, _ => do
    let s ← get
    let plain := s.dialect = .plain
    if w.head? = some '%' then
      match s.jobOf? w with
      | some j => waitForAll ws (← waitForJob j)
      | none =>
        complain ("wait: " ++ (if plain then "No such job: " ++ shown w
          else shown w ++ ": no such job"))
        if plain then return 2 else waitForAll ws 127
    else if w.all Char.isDigit && !w.isEmpty then
      match s.jobs.find? fun j => j.process = State.digitsNumber w with
      | some j => waitForAll ws (← waitForJob j)
      | none =>
        if !plain then
          complain ("wait: pid " ++ shown w ++ " is not a child of this shell")
        waitForAll ws 127
    else
      complain (if plain then "wait: Illegal number: " ++ shown w
        else "wait: \x60" ++ shown w ++ "': not a pid or valid job spec")
      if plain then return 2 else waitForAll ws 1

/-- Waits for the next job that ends; its status. -/
def waitForNext (jobs : List Job) : Act Nat := do
  let soonest (best : Option Job) (j : Job) : Option Job :=
    match best with
    | some b => if j.finish < b.finish then some j else some b
    | none => some j
  match jobs.foldl soonest none with
  | none => return 127
  | some j => waitForJob j

/-- Waits for jobs. -/
def wait (args : List Bytes) : Act Unit := do
  let plain := (← get).dialect = .plain
  withOptions "wait" "wait [-fn] [-p var] [id ...]" (if plain then "" else "fn")
    (if plain then "" else "p") args fun os words => do
      let s ← get
      let waiting := s.jobs.filter fun j => !j.heard
      if hasOption os 'n' then
        let chosen :=
          if words.isEmpty then waiting
          else words.filterMap fun w =>
            (s.jobOf? w).or (s.jobs.find? fun j => (toString j.process).toList = w)
        ends (← waitForNext chosen)
      else if words.isEmpty then
        if waiting.any fun j => never ≤ j.finish then throw .stuck
        let last := waiting.foldl (fun t j => max t j.finish) s.machine.clock
        match ← passTo last with
        | some n => ends (128 + n)
        | none =>
          waiting.forM tellEnd
          modify fun s => { s with jobs := s.jobs.map fun j => { j with heard := true } }
          ends 0
      else ends (← waitForAll words 0)

/-! ## Listings -/

/-- The jobs that run. -/
def State.runningJobs (s : State) : List Job :=
  s.jobs.filter fun j => !j.heard && j.isRunning s.machine.clock

/-- A job as it is listed. -/
def Job.listing (s : State) (long : Bool) (j : Job) : String :=
  let running := s.runningJobs
  let mark :=
    if (running.getLast?).any fun l => l.process = j.process then "+"
    else if (running.dropLast.getLast?).any fun l => l.process = j.process then "-"
    else " "
  match s.dialect with
  | .bash =>
    let process := if long then " " ++ toString j.process else " "
    "[" ++ toString j.number ++ "]" ++ mark ++ process ++ " Running                 " ++
      shown j.text ++ " &\n"
  | .plain =>
    "[" ++ toString j.number ++ "] " ++ mark ++ (if long then " " ++ toString j.process else "") ++
      " Running                    \n"

/-- Lists the jobs that run. -/
def jobs (args : List Bytes) : Act Unit := do
  let plain := (← get).dialect = .plain
  withOptions "jobs" "jobs [-lnprs] [jobspec ...] or jobs -x command [args]"
    (if plain then "lp" else "lnprs") "" args fun os words => do
      let s ← get
      let missing := words.find? fun w => (s.jobOf? w).isNone
      match missing with
      | some w =>
        if plain then fail 2 ("jobs: No such job: " ++ shown w)
        else fail 1 ("jobs: " ++ shown w ++ ": no such job")
      | none =>
        let chosen := if words.isEmpty then s.runningJobs else words.filterMap s.jobOf?
        let text (j : Job) : String :=
          if hasOption os 'p' then toString j.process ++ "\n" else j.listing s (hasOption os 'l')
        let _ ← emit 1 (String.join (chosen.map text)).toList
        ends 0

/-- Forgets jobs. -/
def disown (args : List Bytes) : Act Unit := do
  withOptions "disown" "disown [-h] [-ar] [jobspec ... | pid ...]" "har" "" args fun os words => do
    let s ← get
    let all := hasOption os 'a' || hasOption os 'r'
    let forget (keep : Job → Bool) : Act Unit := do
      set { s with jobs := s.jobs.filter keep }
      ends 0
    match words with
    | [] =>
      if all then forget fun _ => false
      else
        match s.runningJobs.getLast? with
        | some j => forget fun k => k.process ≠ j.process
        | none => fail 1 "disown: current: no such job"
    | w :: _ =>
      match (s.jobOf? w).or (s.jobs.find? fun j => (toString j.process).toList = w) with
      | some j => forget fun k => k.process ≠ j.process
      | none => fail 1 ("disown: " ++ shown w ++ ": no such job")

/-- A command that needs control of jobs, which a script has not. -/
def withoutControl (name : String) : Act Unit := do
  match (← get).dialect with
  | .bash =>
    if name = "suspend" then fail 1 "suspend: cannot suspend: no job control"
    else fail 1 (name ++ ": no job control")
  | .plain => fail 2 (name ++ ": No current job")

/-- Tells how much time was used. -/
def times : Act Unit := do
  let line :=
    match (← get).dialect with
    | .bash => "0m0.000s 0m0.000s\n"
    | .plain => "0m0.000000s 0m0.000000s\n"
  let _ ← emit 1 (line ++ line).toList
  ends 0

end Provision.Shell
