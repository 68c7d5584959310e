import Provision.Contract.Key
import Provision.Contract.Request

/-!
# Templates

A template names the providers that it imports, the parameters that it takes, its resources in
order, and its outputs. `Template.parse` reads one and makes sure that no two resources have one
name and that every resource uses an import that is there.
-/

namespace Provision

/-- A provider under a local name, with the settings that every request to it carries. -/
structure ImportDeclaration where
  provider : String
  version : String
  config : Dictionary String Json

/-- A parameter; without a default a value must be supplied. -/
structure ParameterDeclaration where
  defaultValue : Option Json

/-- A resource. -/
structure ResourceDeclaration where
  name : String
  /-- The local name of its provider. -/
  importAlias : String
  resourceType : String
  properties : Json
  /-- Whether it is there already and only to be read. -/
  isExisting : Bool

/-- An output of the deployment. -/
structure OutputDeclaration where
  outputType : Option String
  value : Json

/-- A template. -/
structure Template where
  imports : Table ImportDeclaration
  parameters : Table ParameterDeclaration
  resources : List ResourceDeclaration
  outputs : Table OutputDeclaration

namespace ImportDeclaration

/-- The key of the provider. -/
def key (i : ImportDeclaration) : ProviderKey := ⟨i.provider, i.version⟩

/-- How an import stands in Json. -/
def shape : Json.Shape ImportDeclaration :=
  .record "ImportDeclaration"
    (.required "provider" .string <| .required "version" .string <|
      .defaulted "config" (.view (.entries .any) Dictionary.ofList Dictionary.entries) ∅ .done)
    (fun (provider, version, config, _) => .ok ⟨provider, version, config⟩)
    fun i => (i.provider, i.version, i.config, ())

/-- The import in diagnostics. -/
def inspect (i : ImportDeclaration) : String :=
  Text.inspectRecord "ImportDeclaration"
    [("provider", Text.quoted i.provider), ("version", Text.quoted i.version),
      ("config", inspectConfig i.config)]

end ImportDeclaration

namespace ParameterDeclaration

/-- How a parameter stands in Json; a default of null is none. -/
def shape : Json.Shape ParameterDeclaration :=
  .record "ParameterDeclaration"
    (.sparse "defaultValue" .any .done) (fun (value, _) => .ok ⟨value⟩)
    fun p => (p.defaultValue, ())

/-- The parameter in diagnostics. -/
def inspect (p : ParameterDeclaration) : String :=
  Text.inspectRecord "ParameterDeclaration"
    [("default_value", Text.inspectOption (p.defaultValue.map Json.inspect))]

end ParameterDeclaration

namespace ResourceDeclaration

/-- How a resource stands in Json. -/
def shape : Json.Shape ResourceDeclaration :=
  .record "ResourceDeclaration"
    (.required "name" .string <| .required "import" .string <| .required "type" .string <|
      .defaulted "properties" .any .null <| .defaulted "existing" .bool false .done)
    (fun (name, importAlias, type, properties, isExisting, _) =>
      .ok ⟨name, importAlias, type, properties, isExisting⟩)
    fun r => (r.name, r.importAlias, r.resourceType, r.properties, r.isExisting, ())

/-- The resource in diagnostics. -/
def inspect (r : ResourceDeclaration) : String :=
  Text.inspectRecord "ResourceDeclaration"
    [("name", Text.quoted r.name), ("import", Text.quoted r.importAlias),
      ("resource_type", Text.quoted r.resourceType), ("properties", r.properties.inspect),
      ("existing", toString r.isExisting)]

end ResourceDeclaration

namespace OutputDeclaration

/-- How an output stands in Json. -/
def shape : Json.Shape OutputDeclaration :=
  .record "OutputDeclaration"
    (.defaulted "type" (.optional .string) none <| .required "value" .any .done)
    (fun (type, value, _) => .ok ⟨type, value⟩) fun o => (o.outputType, o.value, ())

/-- The output in diagnostics. -/
def inspect (o : OutputDeclaration) : String :=
  Text.inspectRecord "OutputDeclaration"
    [("output_type", Text.inspectOption (o.outputType.map Text.quoted)),
      ("value", o.value.inspect)]

end OutputDeclaration

/-- Why a text is no template. -/
inductive TemplateFault where
  | unreadable (e : Json.ReadError)
  | duplicateResource (name : String)
  | undefinedImport (resource importAlias : String)
  /-- A value refers to a parameter that has no value. -/
  | unknownParameter (name : String)
  deriving DecidableEq

/-- The text of a fault. -/
def TemplateFault.message : TemplateFault → String
  | unreadable e => e.message
  | duplicateResource name => "duplicate resource name '" ++ name ++ "'"
  | undefinedImport resource importAlias =>
    "resource '" ++ resource ++ "' references undefined import '" ++ importAlias ++ "'"
  | unknownParameter name => "reference to unknown parameter '" ++ name ++ "'"

namespace Template

/-- How a template stands in Json. -/
def shape : Json.Shape Template :=
  .record "Template"
    (.defaulted "imports" (.table ImportDeclaration.shape) ∅ <|
      .defaulted "parameters" (.table ParameterDeclaration.shape) ∅ <|
      .defaulted "resources" (.list ResourceDeclaration.shape) [] <|
      .defaulted "outputs" (.table OutputDeclaration.shape) ∅ .done)
    (fun (imports, parameters, resources, outputs, _) =>
      .ok ⟨imports, parameters, resources, outputs⟩)
    fun t => (t.imports, t.parameters, t.resources, t.outputs, ())

/-- The fault of the first of some resources that has the name of an earlier one or uses an import
that is not there. -/
def checkResources (imports : Table ImportDeclaration) :
    List String → List ResourceDeclaration → Except TemplateFault Unit
  | _, [] => .ok ()
  | seen, r :: rest =>
    if seen.contains r.name then .error (.duplicateResource r.name)
    else if imports.contains r.importAlias then checkResources imports (r.name :: seen) rest
    else .error (.undefinedImport r.name r.importAlias)

/-- The template of a text. -/
def parse (text : String) : Except TemplateFault Template := do
  let t ← (shape.ofText text).mapError .unreadable
  checkResources t.imports [] t.resources
  .ok t

/-- The template in diagnostics. -/
def inspect (t : Template) : String :=
  let table {α : Type} (f : α → String) (entries : Table α) : String :=
    Text.inspectMap (entries.map f).entries
  Text.inspectRecord "Template"
    [("imports", table ImportDeclaration.inspect t.imports),
      ("parameters", table ParameterDeclaration.inspect t.parameters),
      ("resources", Text.inspectList (t.resources.map ResourceDeclaration.inspect)),
      ("outputs", table OutputDeclaration.inspect t.outputs)]

end Template

end Provision
