import Provision.Shell.Grammar
import Provision.Shell.State

/-!
# Shells within shells

A part of a script may run in a shell of its own: it starts with what its parent knows, and nothing
but what it did to the machine and its status is left of it when it ends.
-/

namespace Provision.Shell

/-! ## Texts that are run -/

/-- How a token is named where it is unexpected. -/
def Token.complaint : Token → String
  | .newline => "newline unexpected"
  | .ending => "end of file unexpected"
  | .word _ => "word unexpected"
  | .operator name => "\"" ++ shown name ++ "\" unexpected"
  | .redirection _ => "redirection unexpected"

/-- Writes why a text is no script. -/
def reportFault (context : String) (f : SyntaxFault) : Act Unit := do
  let s ← get
  match s.dialect with
  | .bash =>
    let line := shown s.origin ++ ": " ++ context ++ "line "
    let start := line ++ toString f.line ++ ": "
    let echoed := start ++ "\x60" ++ shown f.text ++ "'"
    match f.cause with
    | .unexpected .ending _ => sayLine (start ++ "syntax error: unexpected end of file")
    | .unexpected token _ =>
      sayLine (start ++ "syntax error near unexpected token \x60" ++ token.label ++ "'")
      sayLine echoed
    | .unclosed mark opened =>
      sayLine (line ++ toString opened ++ ": unexpected EOF while looking for matching \x60" ++
        shown mark ++ "'")
    | .other lines echoes =>
      lines.forM fun text => sayLine (start ++ text)
      if echoes then sayLine echoed
  | .plain =>
    let start := shown s.name ++ ": " ++ toString f.line ++ ": " ++ context ++ "Syntax error: "
    match f.cause with
    | .unexpected token expected =>
      let token : Token :=
        match token with
        | .word raw => if (reservedWords .plain).contains (shown raw) then .operator raw else token
        | t => t
      let expecting :=
        match expected with
        | none => ""
        | some "word" => " (expecting word)"
        | some e => " (expecting \"" ++ e ++ "\")"
      sayLine (start ++ token.complaint ++ expecting)
    | .unclosed mark _ =>
      sayLine (start ++
        (if mark = [')'] then "end of file unexpected (expecting \")\")"
          else "Unterminated quoted string"))
    | .other lines _ => lines.forM fun text => sayLine (shown s.name ++ ": " ++ toString f.line ++
        ": " ++ context ++ text)

/-- The documents of a line in their order. -/
def documentsOf (first next : Nat) (documents : List (Nat × Word)) : List Word :=
  (List.range (next - first)).map fun i => (documents.lookup (first + i)).getD []

/-- Runs what is left of a script, one line at a time; whether it was a script to its end. A fault
that ends a line ends no more than that if `keepsOn`. -/
def runLines (run : Command → Act Unit) (context : String) (keepsOn : Bool) :
    Nat → Source → Act Bool
  | 0, _ => pure true
  | fuel + 1, source => do
    let s ← get
    let source := { source with
      extended := s.allows "extglob", nextDocument := s.documents.size, documents := []
      warnings := [] }
    match readCommandLine.run source with
    | .error f =>
      if s.has "verbose" then say (source.rest.take (source.rest.length))
      reportFault context f
      ends f.status
      return false
    | .ok (c, rest) =>
      if s.has "verbose" then
        say (source.rest.take (source.rest.length - rest.rest.length))
      let documents := documentsOf s.documents.size rest.nextDocument rest.documents
      modify fun s => { s with documents := s.documents ++ documents.toArray }
      rest.warnings.reverse.forM fun (line, text) =>
        sayLine (shown s.origin ++ ": line " ++ toString line ++ ": " ++ text)
      match c with
      | none => return true
      | some c =>
        if !s.has "noexec" then
          if keepsOn then
            match ← attempt (run c) with
            | .error .discard => pure ()
            | .error flow => throw flow
            | .ok () => pure ()
          else run c
        runLines run context keepsOn fuel rest

/-- Runs the commands of a text, whose lines are counted from `line`; whether it is a script. -/
def runText (run : Command → Act Unit) (context : String) (keepsOn : Bool) (line : Nat)
    (text : Bytes) : Act Bool := do
  let s ← get
  let source := Source.ofText s.dialect (s.allows "extglob") s.documents.size line text
  runLines run context keepsOn (source.rest.length + 2) source

/-! ## Ends -/

/-- How many commands a job may run while others wait for it. -/
def jobBudget : Nat := 20000

/-- The signals on which a shell does what it was asked to do at its end. -/
def orderlySignals : List Nat := [1, 2, 4, 5, 6, 7, 8, 10, 11, 12, 13, 14, 15, 24, 25, 26, 31]

/-- Runs the action of a trap, whose lines are counted from `line`. -/
def runAction (run : Command → Act Unit) (line : Nat) (text : Bytes) : Act Unit := do
  let shift := (← get).shift
  modify fun s => { s with shift := 0 }
  let r ← attempt (runText run "" true line text)
  modify fun s => { s with shift }
  match r with
  | .ok _ => pure ()
  | .error flow => throw flow

/-- Does what the shell was asked to do at its end. -/
def runExitTrap (run : Command → Act Unit) : Act Unit := do
  let s ← get
  match s.traps.lookup "EXIT" with
  | some (c :: action) =>
    set { s with
      traps := s.traps.filter (·.1 ≠ "EXIT"), trapping := true, line := 1, shift := 0, calls := []
      origin := s.name, loops := 0 }
    match ← attempt (runAction run 1 (c :: action)) with
    | .error (.killed signal process) => throw (.killed signal process)
    | .error .stuck => throw .stuck
    | .error .exit => pure ()
    | _ => ends s.status
  | _ => pure ()

/-- A shell that runs to its end, waits for nobody, and then does what it was asked to do at its
end; its jobs go on. -/
def finishing (run : Command → Act Unit) (settle : Act Unit) (body : Act Unit) : Act Unit := do
  match ← attempt body with
  | .error .stuck => throw .stuck
  | .error (.killed signal process) =>
    let s ← get
    if process = s.process && s.dialect = .bash && orderlySignals.contains signal then
      runExitTrap run
    settle
    throw (.killed signal process)
  | _ =>
    runExitTrap run
    settle

/-- How a process ended: its status, and the signal that ended it if one did. -/
structure Ended where
  status : Nat
  signal : Option Nat

/-- Runs something in a shell of its own, which knows of the loops around it if it is told to. -/
def inShell (run : Command → Act Unit) (settle : Act Unit) (process : Nat) (inLoops : Bool)
    (prepare : State → State) (body : Act Unit) : Act Ended := do
  let outer ← get
  let keeps (name : String) : Bool :=
    name = "ERR" && outer.has "errtrace" ||
      (name = "DEBUG" || name = "RETURN") && outer.has "functrace"
  set (prepare { outer with
    process
    subshells := outer.subshells + 1
    traps := outer.traps.filter fun t => t.2.isEmpty || keeps t.1
    shownTraps := outer.traps.filter fun t => !t.2.isEmpty && !keeps t.1
    jobs := []
    loops := if inLoops then outer.loops else 0
    pending := []
    readers := []
    substituted := none })
  let r ← attempt (finishing run settle body)
  let inner ← get
  set { outer with machine := inner.machine }
  match r with
  | .error .stuck => throw .stuck
  | .error (.killed signal killed) =>
    if killed = process then return ⟨128 + signal, some signal⟩
    else throw (.killed signal killed)
  | _ => return ⟨inner.status % 256, none⟩

/-- A new process number. -/
def newProcess : Act Nat := do
  let s ← get
  let process := s.machine.lastProcess + 1
  set { s with machine := { s.machine with lastProcess := process } }
  return process

/-- What becomes of a job that was waiting. -/
def runJob (run : Command → Act Unit) (settle : Act Unit) (j : Job) (core : Core) (c : Command) :
    Act Job := do
  let s ← get
  let budget := min s.machine.budget jobBudget
  let machine := { s.machine with clock := j.start, budget }
  set { toCore := { core with machine }, jobs := [] : State }
  let r ← attempt (inShell run settle j.process true id (run c))
  let t ← get
  let finish :=
    match r with
    | .ok _ => t.machine.clock
    | .error _ => never
  let streams := core.descriptors.map Prod.snd
  let holder : Holder := ⟨j.process, streams, finish⟩
  set { s with
    machine := { t.machine with
      clock := s.machine.clock
      budget := s.machine.budget - (budget - t.machine.budget)
      holders := holder :: t.machine.holders } }
  return { j with
    waiting := none
    status := match r with
      | .ok ended => ended.status
      | .error _ => 0
    finish
    first := s.machine.lastProcess + 1
    last := t.machine.lastProcess }

/-- Runs the jobs that are waiting; the number bounds how many are inside each other. -/
def settleJobs (run : Command → Act Unit) : Nat → Act Unit
  | 0 => pure ()
  | n + 1 => do
    let s ← get
    if s.jobs.any (·.waiting.isSome) then
      let jobs ← s.jobs.mapM fun j =>
        match j.waiting with
        | some (core, c) => runJob run (settleJobs run n) j core c
        | none => pure j
      modify fun s => { s with jobs }

/-- Runs the jobs that are waiting. -/
def settle (run : Command → Act Unit) : Act Unit := settleJobs run 64

/-- Runs something in a shell inside this one. -/
def inSubshell (run : Command → Act Unit) (inLoops : Bool) (prepare : State → State)
    (body : Act Unit) : Act Ended := do
  inShell run (settle run) (← newProcess) inLoops prepare body

/-- A text without line breaks at its end. -/
def trimNewlines (cs : Bytes) : Bytes := (cs.reverse.dropWhile (· = '\n')).reverse

/-- What a part of a script writes, run in a shell of its own. -/
def capture (run : Command → Act Unit) (prepare : State → State) (body : Act Unit) : Act Bytes := do
  let s ← get
  let (stream, machine) := s.machine.opened (.kept [])
  set { s with machine }
  let ended ← inSubshell run true (fun s =>
    let s := prepare { s.lead 1 stream with traceDepth := s.traceDepth + 1 }
    { s with
      options := if s.dialect = .bash && !s.allows "inherit_errexit" then
        s.options.filter (· ≠ "errexit") else s.options
      guarded := s.guarded && s.dialect = .plain }) body
  let t ← get
  let free := t.machine.freeAt stream
  if never ≤ free then throw .stuck
  let out := t.machine.written stream
  let machine := t.machine.passTo free
  set { t with
    substituted := some ended.status
    status := ended.status
    machine := { machine with streams := machine.streams.setIfInBounds stream (.text []) } }
  if out.contains '\x00' then
    if t.dialect = .bash then
      complain "warning: command substitution: ignored null byte in input"
    return trimNewlines (out.filter (· ≠ '\x00'))
  return trimNewlines out

end Provision.Shell
