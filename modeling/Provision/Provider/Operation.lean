/-!
# Operations

The four things that a provider may be asked to do with a resource.
-/

namespace Provision

/-- An operation on a resource. -/
inductive Operation where
  /-- Read an existing resource. -/
  | get
  /-- Create or update a resource. -/
  | save
  /-- Tell what a save would do, and do nothing. -/
  | previewSave
  | delete
  deriving DecidableEq, Repr

namespace Operation

/-- All operations. -/
def all : List Operation := [get, save, previewSave, delete]

/-- The name of an operation. -/
def name : Operation → String
  | get => "Get"
  | save => "Save"
  | previewSave => "PreviewSave"
  | delete => "Delete"

/-- The operation of that name. -/
def ofName? (s : String) : Option Operation := all.find? (·.name = s)

end Operation

end Provision
