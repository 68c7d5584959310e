import Provision.Json.Shape

/-!
# Operation responses

A provider that can carry out an operation answers with the resource as it is afterwards or with at
least one error. In Json both answers are one record with a resource and a list of errors, of which
exactly one may be present.
-/

namespace Provision

/-- The state of a resource after an operation. -/
structure ResourceData where
  resourceType : String
  properties : Json
  deriving DecidableEq

namespace ResourceData

/-- A resource without properties. -/
def bare (resourceType : String) : ResourceData := ⟨resourceType, .emptyObject⟩

/-- How a resource stands in Json. -/
def shape : Json.Shape ResourceData :=
  .record "ResourceData"
    (.required "type" .string <| .required "properties" .any .done)
    (fun (type, properties, _) => .ok ⟨type, properties⟩)
    fun r => (r.resourceType, r.properties, ())

end ResourceData

/-- An error about a resource; `target` is empty where it is about nothing in particular. -/
structure OperationError where
  code : String
  message : String
  target : String
  deriving DecidableEq

namespace OperationError

/-- The error in one line, with its target if it has one. -/
def label (e : OperationError) : String :=
  if e.target.isEmpty then e.code ++ ": " ++ e.message
  else e.code ++ ": " ++ e.message ++ " (" ++ e.target ++ ")"

/-- How an error stands in Json. -/
def shape : Json.Shape OperationError :=
  .record "OperationError"
    (.required "code" .string <| .required "message" .string <|
      .defaulted "target" .string "" .done)
    (fun (code, message, target, _) => .ok ⟨code, message, target⟩)
    fun e => (e.code, e.message, e.target, ())

end OperationError

/-- At least one error. -/
structure OperationErrors where
  first : OperationError
  others : List OperationError
  deriving DecidableEq

namespace OperationErrors

/-- One error alone. -/
def one (e : OperationError) : OperationErrors := ⟨e, []⟩

/-- The errors of a list, if there are any. -/
def ofList? : List OperationError → Option OperationErrors
  | [] => none
  | e :: es => some ⟨e, es⟩

/-- The errors as a list. -/
def toList (es : OperationErrors) : List OperationError := es.first :: es.others

/-- The number of errors. -/
def size (es : OperationErrors) : Nat := es.toList.length

end OperationErrors

/-- The answer of a provider. -/
inductive OperationResponse where
  | succeeded (resource : ResourceData)
  | failed (errors : OperationErrors)
  deriving DecidableEq

namespace OperationResponse

/-- A failure for one reason. -/
def failure (e : OperationError) : OperationResponse := .failed (.one e)

/-- Whether the operation succeeded. -/
def isSuccess : OperationResponse → Bool
  | succeeded _ => true
  | failed _ => false

/-- The resource of a success. -/
def resource? : OperationResponse → Option ResourceData
  | succeeded r => some r
  | failed _ => none

/-- The errors of a failure; none for a success. -/
def errors : OperationResponse → List OperationError
  | succeeded _ => []
  | failed es => es.toList

/-- The answer with a given resource and given errors, of which exactly one must be present. -/
def ofParts : Option ResourceData → List OperationError → Except String OperationResponse
  | some r, [] => .ok (.succeeded r)
  | none, e :: es => .ok (.failed ⟨e, es⟩)
  | some _, _ :: _ => .error "operation response carries both a resource and errors"
  | none, [] => .error "operation response carries neither a resource nor errors"

/-- How an answer stands in Json. -/
def shape : Json.Shape OperationResponse :=
  .record "WireResponse"
    (.defaulted "resource" (.optional ResourceData.shape) none <|
      .defaulted "errors" (.list OperationError.shape) [] .done)
    (fun (resource, errors, _) => ofParts resource errors)
    fun r => (r.resource?, r.errors, ())

end OperationResponse

end Provision
