import Provision.Provider.Fault
import Provision.Utility.Properties

/-!
# Scripts

A runner takes a script and tells how running it plays out: how long it takes, how it ends, and
whether it stops when it is cancelled. A script that ends with a code other than zero has not
failed: it ran.
-/

namespace Provision.Utility

/-- Why a script did not run to its end. -/
inductive ScriptFault where
  /-- The shell could not be started. -/
  | spawn (shell : String) (why : String)
  /-- Its end or its output could not be learned. -/
  | wait (why : String)
  | cancelled
  deriving DecidableEq, Repr

namespace ScriptFault

/-- The text of a fault. -/
def message : ScriptFault → String
  | spawn shell why => "failed to start '" ++ shell ++ "': " ++ why
  | wait why => "failed to collect script output: " ++ why
  | cancelled => "script cancelled"

/-- The fault that the provider raises for it. -/
def toProviderFault : ScriptFault → ProviderFault
  | cancelled => .cancelled
  | f => .executionFailed f.message

end ScriptFault

/-- The exit code of a script that was ended by a signal. -/
def signaledExitCode : Int32 := -1

/-- How running a script plays out. -/
structure ScriptRun where
  /-- How many milliseconds it takes; none if it never ends. -/
  duration : Option Nat
  result : Except ScriptFault RunScriptResponse
  /-- Whether it is stopped when the token is cancelled. -/
  heeds : Bool

/-- How a run ends; a token that is cancelled beforehand stops one that heeds it. -/
def ScriptRun.outcome (r : ScriptRun) (cancelled : Bool) :
    Except ScriptFault RunScriptResponse :=
  if cancelled && r.heeds then .error .cancelled else r.result

/-- What becomes of a script. -/
abbrev Runner := String → ScriptRun

/-- The runner that ends every script at once, in one way, and is never stopped. -/
def Runner.fixed (result : Except ScriptFault RunScriptResponse) : Runner :=
  fun _ => ⟨some 0, result, false⟩

end Provision.Utility
