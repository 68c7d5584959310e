import Provision.CommandLine.Run

/-!
# The command line

Reads the files that a command names and writes what comes of it.
-/

open Provision

/-- The variable that presets the path of the settings. -/
def configVariable : String := "LOCALDEPLOY_CONFIG"

/-- What is found under a path. -/
def readFile (path : String) : IO File := do
  try
    let bytes ← IO.FS.readBinFile path
    return .content bytes.toList
  catch
    | .noFileOrDirectory _ _ _ => return .missing .absent
    | .inappropriateType _ code _ =>
      return if code.toNat = FileFault.notDirectory.number then .missing .notDirectory
        else .directory
    | e => return .unreadable (toString e)

/-- What is found under some paths. -/
def readFiles (paths : List String) : IO (String → File) := do
  let found ← paths.mapM fun path => do
    let file ← readFile path
    return (path, file)
  return fun path => (findValue? path found).getD (.missing .absent)

def main (words : List String) : IO UInt32 := do
  let preset ← IO.getEnv configVariable
  let outcome ←
    match CommandLine.readInvocation preset words with
    | .error f => pure (CommandLine.Outcome.usage f)
    | .ok i => do
      let files ← readFiles i.paths
      pure (i.run files)
  IO.print outcome.stdout
  IO.eprint outcome.stderr
  return outcome.exitCode.toUInt32
