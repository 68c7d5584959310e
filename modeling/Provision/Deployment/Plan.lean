import Provision.Deployment.Fault
import Provision.Contract.Result
import Provision.Provider.Registry
import Provision.Template.Parameters

/-!
# Plans

A plan is what a deployment is going to do: one step for every resource, in order, and the outputs
to report if all goes well. Everything that can be wrong with the documents is found while planning,
so a plan that is there can be carried out.
-/

namespace Provision

/-- Whether a deployment saves resources or only previews it. -/
inductive Mode where
  | normal
  | preview
  deriving DecidableEq, Repr

/-- What is done with a resource: one that is there already is read. -/
def Mode.operation (m : Mode) (isExisting : Bool) : Operation :=
  if isExisting then .get
  else
    match m with
    | .normal => .save
    | .preview => .previewSave

/-- One operation of a deployment. -/
structure Step (π : Type) where
  name : String
  operation : Operation
  target : Instance π
  request : OperationRequest

/-- What a deployment is going to do. -/
structure Plan (π : Type) where
  steps : List (Step π)
  outputs : Table DeploymentOutput

/-- An import with its provider and its settings. -/
structure ResolvedImport (π : Type) where
  target : Instance π
  config : Dictionary String Json

/-- A fault of a template as a fault of its deployment. -/
def DeployFault.ofTemplate (f : TemplateFault) : DeployFault := .invalidTemplate f.message

/-- A fault of parameters as a fault of the deployment. -/
def DeployFault.ofParameters (f : ParametersFault) : DeployFault := .invalidParameters f.message

namespace Plan

/-- A value with its references replaced. -/
def fill (p : Parameters) (j : Json) : Except DeployFault Json :=
  (p.substitute j).mapError .ofTemplate

/-- Settings with their references replaced. -/
def fillConfig (p : Parameters) (config : Dictionary String Json) :
    Except DeployFault (Dictionary String Json) := do
  let entries ← config.entries.mapM fun e => (fill p e.2).map fun j => (e.1, j)
  .ok (.ofList entries)

/-- The imports with their providers and settings, by alias. -/
def resolveImports (p : Parameters) :
    List (String × ImportDeclaration) → Registry π →
      Except DeployFault (List (String × ResolvedImport π)) × Registry π
  | [], g => (.ok [], g)
  | (name, i) :: rest, g =>
    match g.resolve i.key with
    | (.error f, g) => (.error (.provider f), g)
    | (.ok target, g) =>
      match fillConfig p i.config with
      | .error f => (.error f, g)
      | .ok config =>
        match resolveImports p rest g with
        | (.error f, g) => (.error f, g)
        | (.ok others, g) => (.ok ((name, ⟨target, config⟩) :: others), g)

/-- The step of a resource. -/
def step (mode : Mode) (p : Parameters) (imports : List (String × ResolvedImport π))
    (r : ResourceDeclaration) : Except DeployFault (Step π) :=
  match findValue? r.importAlias imports with
  | none => .error (.ofTemplate (.undefinedImport r.name r.importAlias))
  | some i => do
    let properties ← fill p r.properties
    .ok ⟨r.name, mode.operation r.isExisting, i.target, ⟨r.resourceType, properties, i.config⟩⟩

/-- An output with its references replaced. -/
def output (p : Parameters) (o : OutputDeclaration) : Except DeployFault DeploymentOutput :=
  (fill p o.value).map fun value => ⟨o.outputType, value⟩

/-- The plan for a template, when its imports are resolved. -/
def ofImports (mode : Mode) (t : Template) (p : Parameters)
    (imports : List (String × ResolvedImport π)) : Except DeployFault (Plan π) := do
  let steps ← t.resources.mapM (step mode p imports)
  let outputs ← t.outputs.mapM (output p)
  .ok ⟨steps, outputs⟩

/-- The template of a text with the values of its parameters. -/
def readDocuments (template parameters : String) :
    Except DeployFault (Template × Parameters) := do
  let t ← (Template.parse template).mapError .ofTemplate
  let supplied ← (ParametersFile.parse parameters).mapError .ofParameters
  let p ← (t.bind supplied).mapError .ofParameters
  .ok (t, p)

/-- The plan for two documents, and the registry with the instances that planning called for. -/
def make (mode : Mode) (template parameters : String) (g : Registry π) :
    Except DeployFault (Plan π) × Registry π :=
  match readDocuments template parameters with
  | .error f => (.error f, g)
  | .ok (t, p) =>
    match resolveImports p t.imports.entries g with
    | (.error f, g) => (.error f, g)
    | (.ok imports, g) => (ofImports mode t p imports, g)

end Plan

end Provision
