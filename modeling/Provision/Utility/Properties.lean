import Provision.Json.Shape

/-!
# Properties of the utility resources

What the utility provider is asked for, and what it tells of a script that ran.
-/

namespace Provision.Utility

/-- To let time pass. -/
structure WaitRequest where
  milliseconds : UInt64
  deriving DecidableEq

/-- How the properties of a wait stand in Json. -/
def WaitRequest.shape : Json.Shape WaitRequest :=
  .record "WaitRequest" (.required "durationMs" .natural64 .done)
    (fun (ms, _) => .ok ⟨ms⟩) fun r => (r.milliseconds, ())

/-- To insist on a condition. -/
structure AssertRequest where
  name : String
  condition : Bool
  deriving DecidableEq

/-- How the properties of an assertion stand in Json. -/
def AssertRequest.shape : Json.Shape AssertRequest :=
  .record "AssertRequest" (.required "name" .string <| .required "condition" .bool .done)
    (fun (name, condition, _) => .ok ⟨name, condition⟩) fun r => (r.name, r.condition, ())

/-- To run a script. -/
structure RunScriptRequest where
  script : String
  deriving DecidableEq

/-- How the properties of a script stand in Json. -/
def RunScriptRequest.shape : Json.Shape RunScriptRequest :=
  .record "RunScriptRequest" (.required "script" .string .done)
    (fun (script, _) => .ok ⟨script⟩) fun r => (r.script, ())

/-- How a script ended and what it wrote. -/
structure RunScriptResponse where
  exitCode : Int32
  stdout : String
  stderr : String
  deriving DecidableEq

/-- How the end of a script stands in Json. -/
def RunScriptResponse.shape : Json.Shape RunScriptResponse :=
  .record "RunScriptResponse"
    (.required "exitCode" .int32 <| .required "stdout" .string <|
      .required "stderr" .string .done)
    (fun (code, out, err, _) => .ok ⟨code, out, err⟩)
    fun r => (r.exitCode, r.stdout, r.stderr, ())

end Provision.Utility
