import Provision.Provider.Fault
import Provision.Text.Duration

/-!
# Deployment faults

Why a deployment could not be carried through at all. What becomes of single resources is no fault:
it is reported in the result.
-/

namespace Provision

/-- Why the settings could not be loaded. -/
inductive ConfigFault where
  | read (path : String) (why : String)
  | parse (why : String)
  deriving DecidableEq, Repr

/-- The text of a fault. -/
def ConfigFault.message : ConfigFault → String
  | read path why => "failed to read config file " ++ path ++ ": " ++ why
  | parse why => "failed to parse config file: " ++ why

/-- What lies behind a fault. -/
def ConfigFault.cause : ConfigFault → String
  | read _ why => why
  | parse why => why

/-- Why a deployment was given up. -/
inductive DeployFault where
  | invalidTemplate (why : String)
  | invalidParameters (why : String)
  /-- A document could not be read. -/
  | readDocument (path : String) (why : String)
  | provider (f : ProviderFault)
  /-- The caller cancelled it. -/
  | cancelled
  /-- It took longer than allowed, in milliseconds. -/
  | timedOut (limit : Nat)
  | config (f : ConfigFault)
  deriving DecidableEq, Repr

namespace DeployFault

/-- What went wrong, without the announcement that something did. -/
def reason : DeployFault → String
  | invalidTemplate why => "invalid template: " ++ why
  | invalidParameters why => "invalid parameters: " ++ why
  | readDocument path why => "failed to read " ++ path ++ ": " ++ why
  | provider f => f.message
  | cancelled => "deployment was cancelled"
  | timedOut limit => "deployment timed out after " ++ Text.duration limit
  | config f => f.message

/-- The text of a fault. -/
def message (f : DeployFault) : String := "local deployment failed: " ++ f.reason

/-- What lies behind a fault, where it is another fault or the operating system. -/
def cause? : DeployFault → Option String
  | readDocument _ why => some why
  | provider f => some f.message
  | config f => some f.message
  | invalidTemplate _ | invalidParameters _ | cancelled | timedOut _ => none

end DeployFault

end Provision
