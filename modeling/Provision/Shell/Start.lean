import Provision.Shell.State

/-!
# Shells that start

What a shell knows when it is started: what it was told, what was exported to it, and what it sets by
itself.
-/

namespace Provision.Shell

/-- The switches that are on when a shell starts. -/
def Dialect.options : Dialect → List String
  | .bash => ["braceexpand", "hashall", "interactive-comments"]
  | .plain => []

/-- The switches of the second kind that are on when a shell starts. -/
def Dialect.switches : Dialect → List String
  | .bash =>
    ["checkwinsize", "cmdhist", "complete_fullquote", "extquote", "force_fignore",
      "globasciiranges", "globskipdots", "hostcomplete", "interactive_comments",
      "patsub_replacement", "progcomp", "promptvars", "sourcepath"]
  | .plain => []

/-- Where programs are looked for if nobody tells. -/
def standardPath : String := "/usr/local/sbin:/usr/local/bin:/usr/sbin:/usr/bin:/sbin:/bin"

/-- The variables that a shell sets by itself, if they were not exported to it. -/
def Dialect.variables (d : Dialect) (path : Bytes) : Frame :=
  let text (name value : String) : Bytes × Variable := (name.toList, .ofText value.toList)
  let here : Bytes × Variable := ("PWD".toList, ⟨.text path, { Attributes.none with exported := true }⟩)
  match d with
  | .bash =>
    let version := ["5", "2", "21", "1", "release", "x86_64-pc-linux-gnu"].map String.toList
    [here, ("OLDPWD".toList, ⟨.unset, { Attributes.none with exported := true }⟩),
      text "BASH" "/usr/bin/bash",
      ("BASH_VERSINFO".toList, ⟨.ofTexts version, { Attributes.none with readOnly := true }⟩),
      text "BASH_VERSION" "5.2.21(1)-release", text "HOSTNAME" "localhost",
      text "HOSTTYPE" "x86_64", text "MACHTYPE" "x86_64-pc-linux-gnu", text "OPTERR" "1",
      text "OPTIND" "1", text "OSTYPE" "linux-gnu", text "PATH" standardPath, text "PS4" "+ ",
      text "SHELL" "/bin/bash", text "TERM" "dumb"]
  | .plain =>
    [here, text "OPTIND" "1", text "PATH" standardPath, text "PS1" "# ", text "PS2" "> ",
      text "PS4" "+ "]

/-- The variables that are exported. -/
def State.exported (s : State) : Frame :=
  (allIn s.frames).filter fun e => e.2.attributes.exported && e.2.value.scalar.isSome

/-- The variables of a shell that is started with some exported ones. -/
def startingFrame (d : Dialect) (path : Bytes) (environment : Frame) : Frame :=
  let exported : Frame := environment.filterMap fun (n, v) =>
    v.value.scalar.map fun t => (n, ⟨.text t, { Attributes.none with exported := true }⟩)
  let frame := (d.variables path).foldl (fun f (n, v) =>
    if f.any (·.1 = n) then f else f.put n v) exported
  match d with
  | .plain => frame
  | .bash =>
    let level := ((frame.find? "SHLVL".toList).bind fun v => v.value.scalar).getD ['0']
    let n := if level.all Char.isDigit then State.digitsNumber level else 0
    frame.put "SHLVL".toList
      ⟨.text (toString (n + 1)).toList, { Attributes.none with exported := true }⟩

/-- The state of a shell that another one starts, with its name and positional parameters. -/
def State.started (s : State) (d : Dialect) (name : Bytes) (positional : List Bytes) : State :=
  { s with
    dialect := d, name, origin := name, home := "environment".toList, mainProcess := s.process
    frames := [startingFrame d s.path s.exported], locals := 0, positional
    status := 0, pipeStatus := [0]
    functions := if d = .bash then s.functions.filter fun f => f.2.exported else []
    traps := s.traps.filter fun t => t.2.isEmpty
    shownTraps := [], options := d.options, switches := d.switches, aliases := [], documents := #[]
    line := 1, shift := 0, calls := [], loops := 0, guarded := false, subshells := 0, traceDepth := 0
    jobs := [], lastJob := none, substituted := none, lastWord := name, directories := []
    clusterAt := 0, current := .nothing, trapping := false, readers := [], pending := [], hashed := [] }

/-- The state of whoever starts programs on a machine and is no script. -/
def State.outside (machine : Machine) (descriptors : List (Nat × Nat)) (here : Place)
    (environment : Frame) : State :=
  { machine, dialect := .bash, name := [], origin := [], home := [], process := machine.lastProcess
    mainProcess := machine.lastProcess, descriptors, here, path := Place.path here
    frames := [environment], locals := 0, positional := [], status := 0, pipeStatus := [0]
    functions := [], traps := [], shownTraps := [], options := [], switches := [], aliases := []
    documents := #[], line := 1, shift := 0, calls := [], loops := 0, guarded := false
    subshells := 0, traceDepth := 0, jobs := [], lastJob := none, substituted := none
    lastWord := [], directories := [], clusterAt := 0, umask := 0o022, niceness := 0, current := .nothing
    trapping := false, readers := [], pending := [], hashed := [] }

end Provision.Shell
