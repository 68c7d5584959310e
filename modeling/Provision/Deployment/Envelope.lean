import Provision.Contract.Response

/-!
# Error envelopes

Engines wrap an error into an object under the name `error`, or send it bare. An engine that passes
on the answer of a provider puts that answer, as Json text, into the message of its own error; the
error of such an operation is the inner one.
-/

namespace Provision

/-- Why an envelope holds no error that can be understood. -/
inductive EnvelopeFault where
  /-- It is no object. -/
  | notAnObject (kind : String)
  /-- The error in it has another shape. -/
  | malformed (e : Json.ReadError)
  deriving DecidableEq

/-- The text of a fault. -/
def EnvelopeFault.message : EnvelopeFault → String
  | notAnObject kind => "expected an error envelope object, found " ++ kind
  | malformed e => "malformed error envelope: " ++ e.message

namespace Envelope

/-- What kind of value a value is. -/
def kind : Json → String
  | .null => "null"
  | .bool _ => "a boolean"
  | .number _ => "a number"
  | .string _ => "a string"
  | .array _ => "an array"
  | .object _ => "an object"

/-- The error in an envelope: the member `error` unless it is null, or the envelope itself when it
has a code. -/
def errorObject? (envelope : Json) : Except EnvelopeFault (Option Json) :=
  match envelope with
  | .null => .ok none
  | .object members =>
    match findValue? "error" members with
    | some .null => .ok none
    | some error => .ok (some error)
    | none => .ok (if (findValue? "code" members).isSome then some envelope else none)
  | other => .error (.notAnObject (kind other))

/-- How engines send errors: message and target may be null or absent, which reads as empty. -/
def errorShape : Json.Shape OperationError :=
  .record "WireError"
    (.required "code" .string <|
      .defaulted "message" (.optional .string) none <|
      .defaulted "target" (.optional .string) none .done)
    (fun (code, message, target, _) => .ok ⟨code, message.getD "", target.getD ""⟩)
    fun e => (e.code, some e.message, some e.target, ())

/-- The error of an envelope, if it has one. -/
def error? (envelope : Json) : Except EnvelopeFault (Option OperationError) := do
  match ← errorObject? envelope with
  | none => .ok none
  | some error => (some <$> errorShape.ofJson error).mapError .malformed

/-- The error that a message holds as the text of an envelope. -/
def inner? (message : String) : Option OperationError :=
  match Json.parse message with
  | .error _ => none
  | .ok nested =>
    match error? nested with
    | .ok e => e
    | .error _ => none

/-- The error of an envelope of an operation, if it has one: the inner one, if there is one. -/
def operationError? (envelope : Json) : Except EnvelopeFault (Option OperationError) :=
  (error? envelope).map fun e => e.map fun outer => (inner? outer.message).getD outer

end Envelope

end Provision
