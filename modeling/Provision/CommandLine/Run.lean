import Provision.CommandLine.Arguments
import Provision.Deployment.Local
import Provision.Deployment.Summary
import Provision.Shell.Program

/-!
# Running a command

A command reads files and writes two texts. Resources that fail are part of a report, so a
deployment that fails this way is still reported with success; the exit code tells whether there is
a report at all.
-/

namespace Provision.CommandLine

/-- How a command ends. -/
structure Outcome where
  exitCode : Nat
  stdout : String
  stderr : String
  deriving DecidableEq, Repr

namespace Outcome

/-- A command that has written a text. -/
def success (text : String) : Outcome := ⟨0, text ++ "\n", ""⟩

/-- A text with every line indented. -/
def indented (text : String) : String :=
  "\n".intercalate ((text.splitOn "\n").map ("    " ++ ·))

/-- A command that could not do its work, and what lies behind it. -/
def failure (text : String) (cause : Option String) : Outcome :=
  let behind :=
    match cause with
    | none => ""
    | some cause => "\n\nCaused by:\n" ++ indented cause
  ⟨1, "", "Error: " ++ text ++ behind ++ "\n"⟩

/-- A command that is not understood. -/
def usage (f : UsageFault) : Outcome := ⟨2, "", "error: " ++ f.message ++ "\n"⟩

/-- A deployment that was given up. -/
def ofDeployFault (f : DeployFault) : Outcome := failure f.message f.cause?

/-- Settings that could not be loaded. -/
def ofConfigFault (f : ConfigFault) : Outcome := failure f.message (some f.cause)

end Outcome

/-- A report as it is written. -/
def reportText (r : Report) : OutputFormat → String
  | .text => r.summary
  | .json => (Report.shape.write r).pretty

/-- The providers as they are written. -/
def providersText (keys : List ProviderKey) : OutputFormat → String
  | .text =>
    "\n".intercalate
      ((toString keys.length ++ " providers:") ::
        keys.map fun k => "  " ++ k.name ++ " (version " ++ k.version ++ ")")
  | .json => ((Json.Shape.list ProviderKey.shape).write keys).pretty

/-- The providers that the settings allow; nobody carries their messages. -/
def registryOf (s : Settings) : Registry (Provider Unit) :=
  s.registry Shell.runner Carrier.disconnected

/-- Deploys a template with some settings. -/
def runDeploy (files : String → File) (s : Settings) (a : DeployArguments) : Deployment Unit :=
  let document (path : String) : LocalDocument := ⟨path, files path⟩
  let request : LocalRequest := ⟨document a.template, a.parameters.map document⟩
  ((request.deploy s.deployment (registryOf s) (Engine.deploy a.mode) .never).run ()).1

/-- Runs a command on some files. -/
def Invocation.run (files : String → File) (i : Invocation) : Outcome :=
  match Settings.load i.config (files i.config) with
  | .error f => .ofConfigFault f
  | .ok s =>
    match i.command with
    | .providers => .success (providersText (registryOf s).keys i.format)
    | .deploy a =>
      match (runDeploy files s a).report with
      | .error f => .ofDeployFault f
      | .ok r => .success (reportText r i.format)

/-- The paths that a command reads. -/
def Invocation.paths (i : Invocation) : List String :=
  i.config ::
    match i.command with
    | .providers => []
    | .deploy a => a.template :: a.parameters.toList

/-- Runs a command line on some files, when the path of the settings may be preset. -/
def run (files : String → File) (preset : Option String) (words : List String) : Outcome :=
  match readInvocation preset words with
  | .error f => .usage f
  | .ok i => i.run files

end Provision.CommandLine
