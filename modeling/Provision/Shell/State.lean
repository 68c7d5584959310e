import Provision.Shell.Field
import Provision.Shell.Listing
import Provision.Shell.Machine
import Provision.Shell.Source
import Provision.Shell.Variable

/-!
# The state of a shell

What a shell knows while it runs a script, and the smallest things it does: looking up parameters,
reading, writing and complaining.
-/

namespace Provision.Shell

/-- A function of a script. -/
structure Function where
  body : Command
  /-- What its lines are counted from. -/
  shift : Int
  /-- What its diagnostics name. -/
  origin : Bytes
  exported : Bool
  readOnly : Bool
  deriving Inhabited

/-- A function or file that is being run. -/
structure Call where
  name : Bytes
  origin : Bytes
  /-- The line that it was called on. -/
  line : Nat
  /-- Whether it is a function. -/
  isFunction : Bool

/-- What may come after a command instead of the next one. -/
inductive Flow where
  /-- The end of the shell. -/
  | exit
  /-- The end of a shell, told by its process, by a signal. -/
  | killed (signal process : Nat)
  /-- The end of so many loops. -/
  | leave (loops : Nat)
  /-- The next round of the last of so many loops. -/
  | again (loops : Nat)
  /-- The end of a function or file. -/
  | back
  /-- The end of the line. -/
  | discard
  /-- Nothing any more: the command does not end. -/
  | stuck
  deriving DecidableEq, Repr

/-- What a shell knows, but for its jobs. -/
structure Core where
  machine : Machine
  dialect : Dialect
  /-- The name that the shell was started with. -/
  name : Bytes
  /-- What diagnostics name. -/
  origin : Bytes
  /-- What the diagnostics of functions of the script name. -/
  home : Bytes
  process : Nat
  /-- The process number of the outermost shell. -/
  mainProcess : Nat
  descriptors : List (Nat × Nat)
  here : Place
  /-- The path on which one came here, with its links. -/
  path : Bytes
  frames : List Frame
  /-- How many of the frames are seen from the frame of the function that is being run; none if no
  function is. -/
  locals : Nat
  positional : List Bytes
  /-- How the last command ended, and all of the last pipeline. -/
  status : Nat
  pipeStatus : List Nat
  functions : List (Bytes × Function)
  traps : List (String × Bytes)
  /-- The traps of the shell around this one, which are shown until one is changed. -/
  shownTraps : List (String × Bytes)
  /-- The switches that are on, and those of a second kind. -/
  options : List String
  switches : List String
  aliases : List (Bytes × Bytes)
  documents : Array Word
  line : Nat
  /-- What is added to the lines of commands. -/
  shift : Int
  calls : List Call
  /-- How many loops are around the command. -/
  loops : Nat
  /-- Whether the command is a condition, which may fail. -/
  guarded : Bool
  /-- How many shells are around this one, and how deep its traces are. -/
  subshells : Nat
  traceDepth : Nat
  lastJob : Option Nat
  /-- The status of the last command that was substituted. -/
  substituted : Option Nat
  /-- The last word of the last command. -/
  lastWord : Bytes
  /-- Paths to come back to, latest first. -/
  directories : List Bytes
  /-- Where in a cluster of options the reader of options is. -/
  clusterAt : Nat
  umask : Nat
  /-- How little it is in a hurry. -/
  niceness : Nat
  /-- The command that is being run, or that a trap is run for. -/
  current : Command
  /-- Whether a trap is running. -/
  trapping : Bool
  /-- Commands that read what is being written, with the streams that they read. -/
  readers : List (Nat × Command)
  /-- The signals that have traps which must still be run, latest first. -/
  pending : List String
  /-- Where commands were found. -/
  hashed : List (Bytes × Bytes × Nat)

/-- A command that runs in the background. What it does happens when somebody waits for something. -/
structure Job where
  number : Nat
  process : Nat
  text : Bytes
  /-- The shell that it runs in and the command, until it was run. -/
  waiting : Option (Core × Command)
  start : Nat
  status : Nat
  /-- The instant at which it ends. -/
  finish : Nat
  /-- The processes that it started. -/
  first : Nat
  last : Nat
  /-- Whether its end was heard of. -/
  heard : Bool

/-- The state of a shell. -/
structure State extends Core where
  jobs : List Job

/-- What a shell does. -/
abbrev Act := ExceptT Flow (StateM State)

namespace State

/-- The variable of a name, after following references. -/
def resolve (s : State) (name : Bytes) : Nat → Bytes
  | 0 => name
  | n + 1 =>
    match findIn s.frames name with
    | some ⟨.text target, a⟩ => if a.reference && target ≠ [] then resolve s target n else name
    | _ => name

/-- The name that a name leads to. -/
def target (s : State) (name : Bytes) : Bytes := s.resolve name 8

/-- Whether a switch is on. -/
def has (s : State) (option : String) : Bool := s.options.contains option

/-- Whether a switch of the second kind is on. -/
def allows (s : State) (switch : String) : Bool := s.switches.contains switch

/-- The letters of the switches that are on. -/
def optionLetters : List (Char × String) :=
  [('a', "allexport"), ('b', "notify"), ('e', "errexit"), ('f', "noglob"), ('h', "hashall"),
    ('k', "keyword"), ('m', "monitor"), ('n', "noexec"), ('p', "privileged"), ('t', "onecmd"),
    ('u', "nounset"), ('v', "verbose"), ('x', "xtrace"), ('B', "braceexpand"), ('C', "noclobber"),
    ('E', "errtrace"), ('H', "histexpand"), ('P', "physical"), ('T', "functrace")]

/-- The letters of the switches of the plain shell, in the order in which they are told. -/
def plainLetters : Bytes := "ubaCEVvxsnmiIfe".toList

/-- The letters that tell the switches. -/
def letters (s : State) : Bytes :=
  let on := (optionLetters.filter fun o => s.has o.2).map Prod.fst
  match s.dialect with
  | .bash => on ++ ['c']
  | .plain => plainLetters.filter on.contains

/-- The instant before which no clock of a script starts, in seconds. -/
def epoch : Nat := 1767225600

/-- The value of a variable that is made when it is looked up. -/
def special? (s : State) (name : Bytes) : Option Value :=
  let number (n : Nat) : Option Value := some (.text (toString n).toList)
  match shown name with
  | "IFS" => some (.text [' ', '\t', '\n'])
  | "PPID" => number 1
  | n =>
    if s.dialect = .plain then none
    else
      match n with
      | "LINENO" => number s.line
      | "BASH_COMMAND" => some (.text (Listing.ofCommand s.current))
      | "BASHPID" => number s.process
      | "BASH_SUBSHELL" => number s.subshells
      | "SECONDS" => number (s.machine.clock / 1000)
      | "EPOCHSECONDS" => number (epoch + s.machine.clock / 1000)
      | "EPOCHREALTIME" =>
        some (.text ((toString (epoch + s.machine.clock / 1000)).toList ++ ".000000".toList))
      | "RANDOM" => number ((s.machine.budget * 48271 + 11) % 2147483647 % 32768)
      | "SRANDOM" => number ((s.machine.budget * 48271 + 11) % 4294967296)
      | "UID" | "EUID" => number 0
      | "PIPESTATUS" => some (.ofTexts (s.pipeStatus.map fun n => (toString n).toList))
      | "FUNCNAME" =>
        if s.calls.any (·.isFunction) then some (.ofTexts (s.calls.map Call.name)) else none
      | "BASH_SOURCE" =>
        if s.calls.isEmpty then none else some (.ofTexts (s.calls.map Call.origin))
      | "BASH_LINENO" =>
        if s.calls.isEmpty then none
        else some (.ofTexts (s.calls.map fun c => (toString c.line).toList))
      | "DIRSTACK" => some (.ofTexts (s.path :: s.directories))
      | "GROUPS" => some (.ofTexts [['0']])
      | "BASHOPTS" => some (.text (":".intercalate s.switches).toList)
      | "SHELLOPTS" => some (.text (":".intercalate s.options).toList)
      | "_" => some (.text s.lastWord)
      | _ => none

/-- The variable of a name. -/
def variableOf (s : State) (name : Bytes) : Option Variable :=
  let name := s.target name
  match findIn s.frames name with
  | some v => some v
  | none => (s.special? name).map fun v => ⟨v, .none⟩

/-- The number that digits stand for. -/
def digitsNumber (digits : Bytes) : Nat := digits.foldl (fun n c => n * 10 + (c.toNat - 48)) 0

/-- The value of a parameter that is not a variable. -/
def parameter? (s : State) (name : Bytes) : Option Bytes :=
  match name with
  | ['?'] => some (toString s.status).toList
  | ['#'] => some (toString s.positional.length).toList
  | ['$'] => some (toString s.mainProcess).toList
  | ['0'] => some s.name
  | ['-'] => some s.letters
  | ['!'] => s.lastJob.map fun n => (toString n).toList
  | c :: _ =>
    if c.isDigit then
      let n := digitsNumber name
      if n = 0 then some s.name else s.positional[n - 1]?
    else (s.variableOf name).bind fun v => v.value.scalar
  | [] => none

/-- The text of a variable, empty if it has none. -/
def textOf (s : State) (name : String) : Bytes := (s.parameter? name.toList).getD []

/-- What separates fields. -/
def separators (s : State) : Separators :=
  .ofParameter ((s.variableOf ['I', 'F', 'S']).bind fun v => v.value.scalar)

/-- The state with a variable as it is given, wherever it is seen. -/
def put (s : State) (name : Bytes) (v : Variable) : State :=
  { s with frames := putIn s.frames (s.target name) v }

/-- The state with the text of a variable, which keeps what is special about it. -/
def setText (s : State) (name : Bytes) (t : Bytes) : State :=
  let name := s.target name
  match findIn s.frames name with
  | some v => { s with frames := putIn s.frames name { v with value := v.value.putScalar t } }
  | none =>
    let exported := s.has "allexport"
    { s with
      frames := putIn s.frames name ⟨.text t, { Attributes.none with exported }⟩ }

/-- The state without a variable. -/
def unset (s : State) (name : Bytes) : State :=
  { s with frames := eraseIn s.frames (s.target name) }

/-- Whether a variable cannot be changed. -/
def isReadOnly (s : State) (name : Bytes) : Bool :=
  (findIn s.frames (s.target name)).any (·.attributes.readOnly)

/-- The state after a command that ended so. -/
def ended (s : State) (status : Nat) : State := { s with status := status % 256 }

/-- What a diagnostic starts with. -/
def announcement (s : State) : Bytes :=
  match s.dialect with
  | .bash => s.origin ++ ": line ".toList ++ (toString s.line).toList ++ [':', ' ']
  | .plain =>
    s.name ++ [':', ' '] ++ (toString s.line).toList ++ [':', ' '] ++
      (if s.origin = s.name then [] else s.origin ++ [':', ' '])

/-- The stream that a descriptor leads to. -/
def stream? (s : State) (descriptor : Nat) : Option Nat :=
  (s.descriptors.find? (·.1 = descriptor)).map Prod.snd

/-- The state with a descriptor leading to a stream. -/
def lead (s : State) (descriptor stream : Nat) : State :=
  { s with descriptors := (descriptor, stream) :: s.descriptors.filter (·.1 ≠ descriptor) }

/-- The state with a descriptor closed. -/
def closed (s : State) (descriptor : Nat) : State :=
  { s with descriptors := s.descriptors.filter (·.1 ≠ descriptor) }

/-- The state with a descriptor leading to a new stream, and the number of the stream. -/
def leadTo (s : State) (descriptor : Nat) (stream : Stream) : Nat × State :=
  let (n, machine) := s.machine.opened stream
  (n, { s with machine }.lead descriptor n)

/-- The place of a path, where there may be nothing. -/
def locate (s : State) (path : Bytes) : Except FileFault Place := s.machine.locate s.here true path

/-- What is at a path. -/
def find (s : State) (path : Bytes) : Except FileFault (Entry FileRef) :=
  s.machine.find s.here true path

/-- The node of the file at a path. -/
def node? (s : State) (path : Bytes) : Option Node :=
  match s.find path with
  | .ok (.file (.regular n)) => s.machine.nodes[n]?
  | _ => none

end State

/-! ## Small steps -/

/-- The status of the last command becomes a number. -/
def ends (status : Nat) : Act Unit := modify fun s => s.ended status

/-- Writes bytes to a descriptor; tells if that cannot be done. -/
def emit (descriptor : Nat) (bytes : Bytes) : Act (Option FileFault) := do
  let s ← get
  match s.stream? descriptor with
  | none => return some .badDescriptor
  | some stream =>
    match s.machine.write stream s.process bytes with
    | .ok machine =>
      set { s with machine }
      return none
    | .error f => return some f

/-- Writes bytes to the diagnostics. -/
def say (bytes : Bytes) : Act Unit := do
  let _ ← emit 2 bytes

/-- Writes a diagnostic as it is, with the end of its line. -/
def sayLine (text : String) : Act Unit := say (text.toList ++ ['\n'])

/-- Writes a diagnostic about the script. -/
def complain (text : String) : Act Unit := do
  let s ← get
  say (s.announcement ++ text.toList ++ ['\n'])

/-- Complains, and ends with a status. -/
def fail (status : Nat) (text : String) : Act Unit := do
  complain text
  ends status

/-- What is left to be read of a descriptor. -/
def readable (descriptor : Nat) : Act (Except FileFault Bytes) := do
  let s ← get
  match s.stream? descriptor with
  | none => return .error .badDescriptor
  | some stream => return s.machine.available stream

/-- So many bytes of a descriptor have been read. -/
def took (descriptor count : Nat) : Act Unit := modify fun s =>
  match s.stream? descriptor with
  | none => s
  | some stream => { s with machine := s.machine.consume stream count }

/-- All that is left to be read of a descriptor. -/
def readAll (descriptor : Nat) : Act (Except FileFault Bytes) := do
  let r ← readable descriptor
  match r with
  | .ok bytes =>
    took descriptor bytes.length
    return .ok bytes
  | .error f => return .error f

/-- The shell ends with a status. -/
def leaveShell (status : Nat) : Act α := do
  ends status
  throw .exit

/-- The line ends with a status. -/
def leaveLine (status : Nat) : Act α := do
  ends status
  throw .discard

/-- A special command failed, which ends a plain shell. -/
def failSpecial (status : Nat) (text : String) : Act Unit := do
  complain text
  match (← get).dialect with
  | .bash => ends status
  | .plain => leaveShell status

/-- Runs something and goes on with what it came to. -/
def attempt (a : Act α) : Act (Except Flow α) := do
  let (r, s) := a.run (← get)
  set s
  return r

/-- One command more has run. -/
def countStep : Act Unit := do
  let s ← get
  if s.machine.budget = 0 then throw .stuck
  set { s with machine := { s.machine with budget := s.machine.budget - 1 } }

end Provision.Shell
