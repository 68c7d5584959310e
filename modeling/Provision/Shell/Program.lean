import Provision.Shell.Installed
import Provision.Shell.Interpreter
import Provision.Utility.Script

/-!
# Programs that run scripts

A runner of scripts is named by the program that it starts. A name with a slash is a path, another
one is looked for in the directories where programs are; the program need not be a shell, it is given
the script as what a shell would run.
-/

namespace Provision.Shell

/-- What the program of a name is found to be: a path, or the reason that there is none. -/
def programPath (s : State) (name : Bytes) : Except FileFault Bytes :=
  if name.isEmpty then .error .absent
  else if name.contains '/' then .ok name
  else if FileTree.longestName < name.length then .error .nameTooLong
  else
    match (s.programs name).head? with
    | some path => .ok path
    | none =>
      let isThere := s.searchPath.any fun dir => (s.find (dir ++ '/' :: name)).toOption.isSome
      .error (if isThere then .denied else .absent)

/-- Runs a program with words under its name; or tells why it cannot be run. -/
def startNamed (name : Bytes) (args : List Bytes) : Act (Except FileFault Ended) := do
  match programPath (← get) name with
  | .error f => return .error f
  | .ok path => startAt (exec deepest) mostStarts path name args

/-- How many milliseconds it takes to start a program, whatever it does. -/
def startTime : Nat := 1

/-- How a script plays out that a program is given, on a machine where nothing has happened yet. -/
def playOut (shell script : String) : Utility.ScriptRun :=
  let args := ["-c".toList, Bytes.ofText script]
  let (result, s) := (startNamed (Bytes.ofText shell) args).run .installed
  let m := s.machine
  let response (exitCode : Int32) : Except Utility.ScriptFault Utility.RunScriptResponse :=
    .ok ⟨exitCode, Bytes.text (m.written 1), Bytes.text (m.written 2)⟩
  let finish := max (m.freeAt 1) (m.freeAt 2)
  let duration := if never ≤ finish then none else some (startTime + finish)
  match result with
  | .ok (.error f) => ⟨some 0, .error (.spawn shell f.message), false⟩
  | .ok (.ok ⟨_, some _⟩) => ⟨duration, response Utility.signaledExitCode, true⟩
  | .ok (.ok ⟨status, none⟩) => ⟨duration, response (Int32.ofNat status), true⟩
  | .error _ => ⟨none, response Utility.signaledExitCode, true⟩

/-- The runner of a shell. A script that is cancelled is stopped. -/
def runner (shell : String) : Utility.Runner := fun script =>
  if shell.contains '\x00' || script.contains '\x00' then
    ⟨some 0, .error (.spawn shell "nul byte found in provided data"), false⟩
  else playOut shell script

end Provision.Shell
