import Provision.Template.Document
import Provision.Text.Blank

/-!
# Parameters

Values are supplied for the parameters of a template by name; `Template.bind` joins them with the
defaults. A string of the form `[parameters('n')]` in a template stands for the value bound to `n`,
whatever that is; `Parameters.substitute` puts the values in.
-/

namespace Provision

/-- The values supplied for parameters. -/
structure ParametersFile where
  values : Table Json

namespace ParametersFile

/-- How one supplied value stands in Json. -/
def valueShape : Json.Shape Json :=
  .record "ParameterValue" (.required "value" .any .done) (fun (value, _) => .ok value)
    fun value => (value, ())

/-- How supplied values stand in Json. -/
def shape : Json.Shape ParametersFile :=
  .record "ParametersFile" (.defaulted "parameters" (.table valueShape) ∅ .done)
    (fun (values, _) => .ok ⟨values⟩) fun p => (p.values, ())

end ParametersFile

/-- Why values do not fit a template. -/
inductive ParametersFault where
  | unreadable (e : Json.ReadError)
  | undeclared (name : String)
  | missing (name : String)
  deriving DecidableEq

/-- The text of a fault. -/
def ParametersFault.message : ParametersFault → String
  | unreadable e => e.message
  | undeclared name => "parameter '" ++ name ++ "' is not declared by the template"
  | missing name => "missing value for parameter '" ++ name ++ "'"

/-- The supplied values of a text; a blank text supplies none. -/
def ParametersFile.parse (text : String) : Except ParametersFault ParametersFile :=
  if Text.isBlankText text then .ok ⟨∅⟩ else (shape.ofText text).mapError .unreadable

/-- The values bound to the parameters of a template. -/
structure Parameters where
  values : Table Json

/-- The first supplied name that is not declared. -/
def Template.undeclared? (t : Template) (supplied : ParametersFile) : Option String :=
  supplied.values.keys.find? fun name => !t.parameters.contains name

/-- The value of a declared parameter: the supplied one, else the default. -/
def ParametersFile.valueOf (supplied : ParametersFile) (name : String)
    (declaration : ParameterDeclaration) : Except ParametersFault Json :=
  match (supplied.values.get? name).or declaration.defaultValue with
  | some value => .ok value
  | none => .error (.missing name)

/-- The parameters of a template with their values. Whatever is supplied must be declared, and
whatever is declared must have a value. -/
def Template.bind (t : Template) (supplied : ParametersFile) :
    Except ParametersFault Parameters :=
  match t.undeclared? supplied with
  | some name => .error (.undeclared name)
  | none => do
    let values ← t.parameters.entries.mapM fun e =>
      (supplied.valueOf e.1 e.2).map fun value => (e.1, value)
    .ok ⟨Table.ofList values⟩

/-- What a reference to a parameter starts with. -/
def referenceStart : List Char := "[parameters('".toList

/-- What a reference to a parameter ends with. -/
def referenceEnd : List Char := "')]".toList

/-- The rest of a list after another list. -/
def afterStart? : List Char → List Char → Option (List Char)
  | [], cs => some cs
  | p :: ps, c :: cs => if p = c then afterStart? ps cs else none
  | _ :: _, [] => none

/-- The parameter that a string refers to, if it is a reference. -/
def reference? (s : String) : Option String := do
  let rest ← afterStart? referenceStart s.toList
  let name ← afterStart? referenceEnd.reverse rest.reverse
  some (String.ofList name.reverse)

namespace Parameters

/-- The value bound to a name. -/
def get? (p : Parameters) (name : String) : Option Json := p.values.get? name

/-- The value that a string stands for. -/
def resolve (p : Parameters) (s : String) : Except TemplateFault Json :=
  match reference? s with
  | none => .ok (.string s)
  | some name =>
    match p.get? name with
    | some value => .ok value
    | none => .error (.unknownParameter name)

mutual

/-- The value with every reference replaced by what it refers to; the names of members stay. -/
def substitute (p : Parameters) : Json → Except TemplateFault Json
  | .string s => p.resolve s
  | .array items => (substituteItems p items).map .array
  | .object members => (substituteMembers p members).map .object
  | j => .ok j

/-- `substitute` for every item. -/
def substituteItems (p : Parameters) : List Json → Except TemplateFault (List Json)
  | [] => .ok []
  | j :: js => do
    let j ← substitute p j
    let js ← substituteItems p js
    .ok (j :: js)

/-- `substitute` for the value of every member. -/
def substituteMembers (p : Parameters) :
    List (String × Json) → Except TemplateFault (List (String × Json))
  | [] => .ok []
  | (k, j) :: rest => do
    let j ← substitute p j
    let rest ← substituteMembers p rest
    .ok ((k, j) :: rest)

end

end Parameters

end Provision
