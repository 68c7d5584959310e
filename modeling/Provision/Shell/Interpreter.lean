import Provision.Shell.Conditional
import Provision.Shell.Invocation
import Provision.Shell.Redirection

/-!
# Running commands

What a shell does for each kind of command. The commands inside a command are run by whatever runs
the command, so that each kind can be told by itself; `exec` ties them together, down to a depth.
-/

namespace Provision.Shell

/-! ## Traps -/

/-- Runs the action of a trap in the middle of a script, whose status it keeps. -/
def runTrap (run : Run) (line : Nat) (action : Bytes) : Act Unit := do
  let s ← get
  set { s with trapping := true, traceDepth := s.traceDepth + 1 }
  let r ← attempt (runAction run line action)
  modify fun t => { t with trapping := s.trapping, traceDepth := s.traceDepth, line := s.line }
  let restore : Act Unit := modify fun t => { t with status := s.status, pipeStatus := s.pipeStatus }
  match r with
  | .ok _ | .error .discard => restore
  | .error flow => throw flow

/-- Runs the action of a trap for an event, unless a trap is running. -/
def onEvent (run : Run) (name : String) : Act Unit := do
  let s ← get
  if !s.trapping then
    match s.traps.lookup name with
    | some (c :: action) => runTrap run s.line (c :: action)
    | _ => pure ()

/-- Runs the actions for the signals that came. -/
def onSignals (run : Run) : Act Unit := do
  readMail
  let s ← get
  if !s.pending.isEmpty then
    set { s with pending := [] }
    s.pending.reverse.forM fun name => do
      match (← get).traps.lookup name with
      | some (c :: action) => runTrap run 1 (c :: action)
      | _ => pure ()

/-- What is done after a command: if it failed where it must not, there may be a trap for that, and
the shell may end. -/
def afterCommand (run : Run) : Act Unit := do
  onSignals run
  let s ← get
  if s.status ≠ 0 && !s.guarded then
    onEvent run "ERR"
    let t ← get
    if t.has "errexit" then throw .exit

/-- The status of a command that is a pipeline by itself. -/
def endsAlone (status : Nat) : Act Unit := do
  ends status
  modify fun s => { s with pipeStatus := [s.status] }

/-- Runs a command that may fail. -/
def guarded (a : Act α) : Act α := do
  let s ← get
  set { s with guarded := true }
  let r ← attempt a
  modify fun t => { t with guarded := s.guarded }
  match r with
  | .ok x => return x
  | .error flow => throw flow

/-! ## Words -/

/-- The file whose content a command stands for that does nothing but read it. -/
def readFileOf? (c : Command) : Option Word :=
  match c with
  | .simple _ [] [] [.mk 0 .read w] => some w
  | .sequence [.simple _ [] [] [.mk 0 .read w]] => some w
  | _ => none

/-- The highest descriptor up to 63 that leads nowhere. -/
def highDescriptor (s : State) : Nat :=
  ((List.range 54).map (63 - ·)).find? (fun n => (s.stream? n).isNone) |>.getD 63

/-- The path of a file that a command writes or reads. -/
def processPath (run : Run) (writes : Bool) (c : Command) : Act Bytes := do
  let s ← get
  let (stream, machine) := s.machine.opened (.kept [])
  set { s with machine }
  if writes then
    modify fun t => { t with readers := (stream, c) :: t.readers }
  else
    let _ ← inSubshell run true (fun t => { t.lead 1 stream with traceDepth := t.traceDepth + 1 })
      (run c)
    modify fun t => { t with
      machine := { t.machine with
        streams := t.machine.streams.setIfInBounds stream (.text (t.machine.written stream)) } }
  let fd := highDescriptor s
  modify fun t => t.lead fd stream
  return "/dev/fd/".toList ++ (toString fd).toList

/-- How words are expanded whose parts are run. -/
def substitution (run : Run) : Substitution where
  output line c := do
    let s ← get
    match s.dialect, readFileOf? c with
    | .bash, some w =>
      let sub : Substitution := ⟨fun _ _ => pure [], fun _ => pure [], fun _ _ => pure []⟩
      match ← readFile (← textOf sub w) with
      | .ok text =>
        modify fun t => { t with substituted := some 0, status := 0 }
        return trimNewlines (text.filter (· ≠ '\x00'))
      | .error f =>
        complain (shown (← textOf sub w) ++ ": " ++ f.reason)
        modify fun t => { t with substituted := some 1, status := 1 }
        return []
    | .bash, none => capture run (fun t => { t with shift := (t.line : Int) - line }) (run c)
    | .plain, _ => capture run id (run c)
  outputOf text :=
    capture run (fun s => { s with shift := 0 }) do
      let s ← get
      let _ ← runText run "command substitution: " false s.line text
  process := processPath run

/-- Runs the commands that read what was written to them. -/
def runReaders (run : Run) (readers : List (Nat × Command)) : Act Unit :=
  readers.forM fun (stream, c) => do
    modify fun t => { t with
      machine := { t.machine with
        streams := t.machine.streams.setIfInBounds stream (.text (t.machine.written stream)) } }
    let _ ← inSubshell run true (fun t => t.lead 0 stream) (run c)

/-! ## Simple commands -/

/-- The descriptors that a command keeps open when it has ended. -/
def keptDescriptors (rs : List Redirection) (s : State) : List (Nat × Option Nat) :=
  rs.filterMap fun r =>
    match r with
    | .kept name _ _ =>
      match (s.parameter? name).bind fun t => Redirection.makeAll.numberOf t with
      | some fd => some (fd, s.stream? fd)
      | none => none
    | _ => none

/-- Runs something with redirections, which end with it. -/
def redirected (run : Run) (descriptors : List (Nat × Nat)) (rs : List Redirection)
    (failed : Act Unit) (body : Act Unit) : Act Unit := do
  let sub := substitution run
  let readers := (← get).readers
  let r ← attempt do
    if ← Redirection.makeAll sub rs then body else failed
  let t ← get
  let kept := keptDescriptors rs t
  let restored := descriptors.filter fun d => !kept.any fun k => k.1 = d.1
  let opened := kept.filterMap fun k => k.2.map fun stream => (k.1, stream)
  set { t with descriptors := opened ++ restored, readers }
  runReaders run (t.readers.take (t.readers.length - readers.length)).reverse
  match r with
  | .ok _ => pure ()
  | .error flow => throw flow

/-- A command without words: its assignments and redirections. -/
def runNothing (run : Run) (descriptors : List (Nat × Nat)) (as : List Assignment)
    (rs : List Redirection) : Act Unit := do
  let sub := substitution run
  as.forM (assignForGood sub)
  let s ← get
  if s.dialect = .plain && !as.isEmpty then
    let told := as.map fun a =>
      match a with
      | .text name _ _ _ => name ++ '=' :: s.textOf (shown name)
      | .list name _ _ => name
    trace sub (Listing.spaced told)
  let status := s.substituted.getD 0
  modify fun t => { t with lastWord := [] }
  if rs.isEmpty then
    modify fun t => { t with descriptors }
    ends status
  else
    redirected run descriptors rs (ends (if s.dialect = .bash then 1 else 2)) (ends status)

/-- Tells a command with what it is given. -/
def traceCommand (sub : Substitution) (own : Frame) (ds : List Declared) : Act Unit := do
  let s ← get
  if s.has "xtrace" then
    match s.dialect with
    | .plain =>
      let assigned := own.reverse.map fun (n, v) => n ++ '=' :: (v.value.scalar.getD [])
      trace sub (Listing.spaced (assigned ++ ds.map Declared.raw))
    | .bash =>
      ds.forM fun d => do
        match d with
        | .list _ name append es =>
          trace sub (name ++ (if append then ['+', '='] else ['=']) ++ tracedElements es)
        | _ => pure ()
      let word (d : Declared) : Bytes :=
        match d with
        | .list _ name _ _ => name
        | d => Quoting.traced d.raw
      trace sub (Listing.spaced (ds.map word))

/-- Tells the assignments of a command that exports what it is given. -/
def traceMarked (sub : Substitution) (name : Bytes) (ds : List Declared) : Act Unit := do
  let s ← get
  if s.has "xtrace" && s.dialect = .bash && (name = "export".toList || name = "readonly".toList) then
    ds.forM fun d => do
      match d with
      | .text _ n _ append t => trace sub (assignmentText n none append (tracedValue .bash t))
      | _ => pure ()

/-- Runs something while variables hold that were assigned for it. -/
def withFrame (own : Frame) (body : Act Unit) : Act Unit := do
  if own.isEmpty then body
  else
    modify fun s => { s with
      frames := own :: s.frames, locals := s.locals }
    let r ← attempt body
    modify fun s => { s with frames := s.frames.drop 1 }
    match r with
    | .ok _ => pure ()
    | .error flow => throw flow

/-- Runs a command of the shell under its name. -/
def runOwn (run : Run) (name : Bytes) (own : Frame) (ds : List Declared) : Act Unit := do
  let s ← get
  let body : Act Unit := runBuiltin run (ds.length + 2) (shown name) ds
  match s.dialect with
  | .bash => withFrame own body
  | .plain =>
    let special := specialCommands.contains (shown name)
    let named : Act Unit := do
      modify fun t => { t with origin := t.name }
      let r ← attempt body
      modify fun t => { t with origin := s.origin }
      match r with
      | .ok _ => pure ()
      | .error flow => throw flow
    if special then
      own.reverse.forM fun (n, v) => assignPlain n (v.value.scalar.getD [])
      named
    else withFrame own named

/-- A command with words. -/
def runNamed (run : Run) (descriptors : List (Nat × Nat)) (as : List Assignment)
    (rs : List Redirection) (name : Bytes) (ds : List Declared) : Act Unit := do
  let sub := substitution run
  let own ← assignForNow sub as
  traceCommand sub own (.word name :: ds)
  let s ← get
  let args := ds.map Declared.raw
  let function := s.functions.lookup name
  let isOwn := s.isBuiltin name
  let special := s.dialect = .plain && specialCommands.contains (shown name)
  let failed : Act Unit := do
    if special then leaveShell 2 else ends (if s.dialect = .bash then 1 else 2)
  if name = "exec".toList && function.isNone && (afterDashes args).isEmpty then
    if ← Redirection.makeAll sub rs then ends 0 else failed
  else
    redirected run descriptors rs failed do
      match function, isOwn && !(special && function.isSome) with
      | some f, _ =>
        if special then runOwn run name own ds else callFunction run name f args own
      | none, true =>
        traceMarked sub name ds
        runOwn run name own ds
      | none, false => withFrame own (runProgram run "" name (name :: args))
  modify fun t => { t with lastWord := (args.getLast?).getD name }

/-- A simple command. -/
def runSimple (run : Run) (c : Command) (line : Nat) (as : List Assignment) (ws : List Argument)
    (rs : List Redirection) : Act Unit := do
  countStep
  modify fun s => { s with
    line := ((line : Int) + s.shift).toNat
    substituted := none
    current := if s.trapping then s.current else c }
  onEvent run "DEBUG"
  let descriptors := (← get).descriptors
  match ← argumentsOf (substitution run) ws with
  | [] => runNothing run descriptors as rs
  | d :: ds => runNamed run descriptors as rs d.raw ds
  modify fun s => { s with pipeStatus := [s.status] }
  afterCommand run

/-! ## Pipelines and jobs -/

/-- What is kept of a pipeline while it runs: how its commands ended, latest first; the instant at
which the last of them ended; and whether one would have written without end. -/
structure Flowing where
  ended : List Ended
  finish : Nat
  endless : Bool

/-- How much can be written that nobody reads. -/
def pipeSize : Nat := 65536

/-- How a command ended whose output was not read to its end. -/
def unread (e : Ended) (left : Nat) : Ended :=
  if pipeSize < left && e.status = 0 then ⟨141, some 13⟩ else e

/-- Runs a command of a pipeline that reads from a stream and writes to another one. -/
def runPart (run : Run) (start : Nat) (input output : Option Nat) (c : Command) :
    Act (Ended × Bool) := do
  let s ← get
  let last := output.isNone
  let budget := if last then s.machine.budget else min s.machine.budget jobBudget
  set { s with machine := { s.machine with clock := start, budget } }
  let prepare (t : State) : State :=
    let t := match input with
      | some n => t.lead 0 n
      | none => t
    match output with
    | some n => t.lead 1 n
    | none => t
  let r ← attempt (
    if last && s.allows "lastpipe" then do
      let descriptors := (← get).descriptors
      modify prepare
      let r ← attempt (run c)
      modify fun t => { t with descriptors }
      match r with
      | .ok _ => return ⟨(← get).status, none⟩
      | .error flow => throw flow
    else inSubshell run true prepare (run c))
  modify fun t => { t with
    machine := { t.machine with budget := s.machine.budget - (budget - t.machine.budget) } }
  match r with
  | .ok ended => return (ended, false)
  | .error .stuck => if last then throw .stuck else return (⟨141, some 13⟩, true)
  | .error flow => throw flow

/-- Runs the commands of a pipeline, each reading what the one before wrote. -/
def runParts (run : Run) (start : Nat) : Option Nat → List Command → Flowing → Act Flowing
  | _, [], f => pure f
  | input, [c], f => do
    let (ended, _) ← runPart run start input none c
    let t ← get
    let left :=
      match input.bind fun n => t.machine.streams[n]? with
      | some (.text rest) => rest.length
      | _ => 0
    if f.endless && left = 0 then throw .stuck
    let before :=
      match f.ended with
      | e :: es => unread e left :: es
      | [] => []
    return { f with ended := ended :: before, finish := max f.finish t.machine.clock }
  | input, c :: cs, f => do
    let s ← get
    let (stream, machine) := s.machine.opened (.kept [])
    set { s with machine }
    let (ended, endless) ← runPart run start input (some stream) c
    let t ← get
    let free := t.machine.freeAt stream
    let text := t.machine.written stream
    set { t with
      machine := { t.machine with
        streams := t.machine.streams.setIfInBounds stream (.text text) } }
    runParts run start (some stream) cs
      ⟨ended :: f.ended, max f.finish (if endless then start else free), endless⟩

/-- Runs commands that are joined by pipes. -/
def runPipeline (run : Run) (cs : List Command) : Act Unit := do
  let s ← get
  let f ← runParts run s.machine.clock none cs ⟨[], s.machine.clock, false⟩
  if never ≤ f.finish then throw .stuck
  let statuses := f.ended.reverse.map Ended.status
  let last := statuses.getLast?.getD 0
  let status :=
    if s.has "pipefail" then (statuses.reverse.find? (· ≠ 0)).getD 0 else last
  modify fun t => { t with machine := { t.machine with clock := max f.finish s.machine.clock } }
  ends status
  modify fun t => { t with pipeStatus := statuses }

/-- Starts a command in the background. -/
def startJob (c : Command) : Act Unit := do
  let process ← newProcess
  let s ← get
  let (null, machine) := s.machine.opened (.device .null)
  let inner := { s with machine }.lead 0 null
  let known := s.jobs.filter fun j => !j.heard
  let number := known.foldl (fun n j => max n j.number) 0 + 1
  let job : Job :=
    { number, process, text := Listing.ofCommand c, waiting := some (inner.toCore, c)
      start := s.machine.clock + 1, status := 0, finish := never, first := 0, last := 0
      heard := false }
  set { s with machine, jobs := s.jobs ++ [job], lastJob := some process }
  ends 0

/-- The time that passed, as it is told. -/
def tellTime (milliseconds : Nat) : Act Unit := do
  let pad (n : Nat) : String :=
    let t := toString n
    String.ofList (List.replicate (3 - t.length) '0') ++ t
  let real := toString (milliseconds / 60000) ++ "m" ++ toString (milliseconds / 1000 % 60) ++ "." ++
    pad (milliseconds % 1000) ++ "s"
  sayLine ("\nreal\t" ++ real ++ "\nuser\t0m0.000s\nsys\t0m0.000s")

/-! ## Compound commands -/

/-- What the end of a round means for a loop: whether it goes on, or how it ends. -/
def afterRound : Except Flow Unit → Option (Except Flow Unit)
  | .ok () => none
  | .error (.leave n) => some (if n ≤ 1 then .ok () else .error (.leave (n - 1)))
  | .error (.again n) => if n ≤ 1 then none else some (.error (.again (n - 1)))
  | .error flow => some (.error flow)

/-- Runs something as a loop. -/
def asLoop (body : Act Unit) : Act Unit := do
  let s ← get
  set { s with loops := s.loops + 1 }
  let r ← attempt body
  modify fun t => { t with loops := s.loops }
  match r with
  | .ok _ => pure ()
  | .error flow => throw flow

/-- Goes on with a loop after a round, or ends it. -/
def goOn (r : Except Flow Unit) (next : Act Unit) : Act Unit := do
  match afterRound r with
  | none => next
  | some (.ok ()) => pure ()
  | some (.error flow) => throw flow

/-- The rounds of a loop with a condition, at most so many; `last` is how the last one ended. -/
def runWhile (run : Run) (isUntil : Bool) (condition body : Command) : Nat → Nat → Act Unit
  | 0, _ => throw .stuck
  | fuel + 1, last => do
    match ← attempt (guarded (run condition)) with
    | .error flow => goOn (.error flow) (runWhile run isUntil condition body fuel last)
    | .ok () =>
      let t ← get
      if (t.status = 0) = isUntil then ends last
      else
        let r ← attempt (run body)
        let status := (← get).status
        goOn r (runWhile run isUntil condition body fuel status)

/-- The rounds of a loop over values. -/
def runEach (run : Run) (name told : Bytes) (body : Command) : List Bytes → Act Unit
  | [] => pure ()
  | v :: vs => do
    onEvent run "DEBUG"
    if (← get).dialect = .bash then trace (substitution run) told
    if ← assignText "" name v then
      let r ← attempt (run body)
      goOn r (runEach run name told body vs)
    else ends 1

/-- The value of an expression between double parentheses; none after a diagnostic. -/
def calculated (run : Run) (w : Word) : Act (Option Int) := do
  let sub := substitution run
  let t ← documentOf sub w
  onEvent run "DEBUG"
  trace sub ("(( ".toList ++ t ++ " ))".toList)
  if t.all fun c => c = ' ' || c = '\t' || c = '\n' then return some 0
  calculate "((: " t

/-- The rounds of a loop with expressions, at most so many. -/
def runCount (run : Run) (test next : Word) (body : Command) : Nat → Act Unit
  | 0 => throw .stuck
  | fuel + 1 => do
    let value ← if test.isEmpty then pure (some 1) else calculated run test
    match value with
    | none => ends 1
    | some 0 => pure ()
    | some _ =>
      let r ← attempt (run body)
      goOn r do
        let value ← if next.isEmpty then pure (some 1) else calculated run next
        match value with
        | none => ends 1
        | some _ => runCount run test next body fuel

/-- Whether one of some patterns stands for a text. -/
def matchesOne (run : Run) (t : Bytes) : List Word → Act Bool
  | [] => pure false
  | w :: ws => do
    let gs ← patternWord (substitution run) w
    let s ← get
    if (glob (s.allows "extglob") gs).fits (s.allows "nocasematch") t then return true
    else matchesOne run t ws

/-- The clauses of a selection; the first one is run in any case if `chosen`. -/
def runClauses (run : Run) (t : Bytes) : Bool → List Clause → Act Unit
  | _, [] => pure ()
  | chosen, .mk patterns body ending :: rest => do
    let runs ← if chosen then pure true else matchesOne run t patterns
    if runs then
      run body
      match ending with
      | .stop => pure ()
      | .fallThrough => runClauses run t true rest
      | .test => runClauses run t false rest
    else runClauses run t false rest

/-- The first branch whose condition succeeds. -/
def runBranches (run : Run) (otherwise : Option Command) : List (Command × Command) → Act Unit
  | [] =>
    match otherwise with
    | some c => run c
    | none => ends 0
  | (condition, body) :: rest => do
    guarded (run condition)
    if (← get).status = 0 then run body else runBranches run otherwise rest

/-- The rounds of a choice, at most so many. -/
def runMenu (run : Run) (name : Bytes) (values : List Bytes) (body : Command) : Nat → Bool → Act Unit
  | 0, _ => throw .stuck
  | fuel + 1, shows => do
    let s ← get
    if shows then
      say (values.zipIdx.flatMap fun (v, i) => (toString (i + 1)).toList ++ ") ".toList ++ v ++ ['\n'])
    say ((s.parameter? "PS3".toList).getD "#? ".toList)
    read []
    let t ← get
    let reply := t.textOf "REPLY"
    if t.status ≠ 0 && reply.isEmpty then
      let _ ← emit 1 ['\n']
      ends 1
    else if reply.isEmpty then runMenu run name values body fuel true
    else
      let chosen := (wordNumber? reply).bind fun n =>
        if 1 ≤ n then values[(n - 1).toNat]? else none
      if ← assignText "" name (chosen.getD []) then
        let r ← attempt (run body)
        goOn r (runMenu run name values body fuel false)
      else ends 1

/-- The words of a loop as a trace tells them. -/
def toldWords (keyword : String) (name : Bytes) (words : Option (List Word)) : Bytes :=
  keyword.toList ++ ' ' :: name ++ " in ".toList ++
    match words with
    | none => "\"$@\"".toList
    | some ws => Listing.spaced (ws.map written)

/-- The values that a loop goes over. -/
def valuesOf (run : Run) (words : Option (List Word)) : Act (List Bytes) := do
  match words with
  | none => return (← get).positional
  | some ws => fieldsOfAll (substitution run) ws

/-- Where the line of a command is kept that is not simple. -/
def atLine (line : Nat) : Act Unit := modify fun s => { s with line := ((line : Int) + s.shift).toNat }

/-- Defines a function. -/
def define (name : Bytes) (body : Command) : Act Unit := do
  let s ← get
  if (s.functions.lookup name).any (·.readOnly) then
    fail 1 (shown name ++ ": readonly function")
  else
    let exported := (s.functions.lookup name).any (·.exported)
    let f : Function := ⟨body, s.shift, s.home, exported, false⟩
    set { s with functions := (name, f) :: s.functions.filter fun e => e.1 ≠ name }
    ends 0

/-- Runs a command, when the commands inside it are run so. -/
def step (run : Run) (c : Command) : Act Unit := do
  match c with
  | .simple line as ws rs => runSimple run c line as ws rs
  | .pipeline negated timed cs =>
    let start := (← get).machine.clock
    let body : Act Unit :=
      match cs with
      | [c] => run c
      | cs => runPipeline run cs
    if negated then
      guarded body
      modify fun s => { s with status := if s.status = 0 then 1 else 0 }
    else body
    if timed then tellTime ((← get).machine.clock - start)
    if !negated && cs.length > 1 then afterCommand run
  | .both a b =>
    guarded (run a)
    if (← get).status = 0 then run b
  | .either a b =>
    guarded (run a)
    if (← get).status ≠ 0 then run b
  | .sequence cs => cs.forM run
  | .background c => startJob c
  | .subshell c =>
    let ended ← inSubshell run false id (run c)
    endsAlone ended.status
    match ended.signal with
    | some n => tellSignal (Listing.ofCommand (.subshell c)) n
    | none => pure ()
    afterCommand run
  | .group c => run c
  | .redirected c rs =>
    let s ← get
    let failed : Act Unit := do
      ends (if s.dialect = .bash then 1 else 2)
      afterCommand run
    redirected run s.descriptors rs failed (run c)
  | .branch branches otherwise => runBranches run otherwise branches
  | .repeated isUntil condition body =>
    let budget := (← get).machine.budget
    asLoop (runWhile run isUntil condition body (budget + 1) 0)
  | .each line name words body =>
    atLine line
    let values ← valuesOf run words
    ends 0
    asLoop (runEach run name (toldWords "for" name words) body values)
  | .menu line name words body =>
    atLine line
    let values ← valuesOf run words
    trace (substitution run) (toldWords "select" name words)
    ends 0
    let budget := (← get).machine.budget
    if !values.isEmpty then asLoop (runMenu run name values body (budget + 1) true)
  | .count line start test next body =>
    atLine line
    let first ← if start.isEmpty then pure (some 1) else calculated run start
    match first with
    | none => ends 1
    | some _ =>
      ends 0
      let budget := (← get).machine.budget
      asLoop (runCount run test next body (budget + 1))
  | .select line w clauses =>
    atLine line
    onEvent run "DEBUG"
    let sub := substitution run
    if (← get).dialect = .bash then trace sub ("case ".toList ++ written w ++ " in".toList)
    let t ← textOf sub w
    ends 0
    runClauses run t false clauses
  | .condition line condition =>
    atLine line
    countStep
    onEvent run "DEBUG"
    endsAlone (← condition.status (substitution run))
    afterCommand run
  | .calculation line w =>
    atLine line
    countStep
    match ← calculated run w with
    | none => endsAlone 1
    | some n => endsAlone (if n = 0 then 1 else 0)
    afterCommand run
  | .function name body => define name body

/-- How deep commands can be inside each other. -/
def deepest : Nat := 12000

/-- Runs a command; one that is too deep ends the shell. -/
def exec : Nat → Command → Act Unit
  | 0, _ => do throw (.killed 11 (← get).process)
  | fuel + 1, c => step (exec fuel) c

end Provision.Shell
