import Provision.Json.Shape

/-!
# Properties of repositories

A repository is named by its owner and its own name.
-/

namespace Provision.Repository

/-- To read a repository. -/
structure RepositoryRequest where
  owner : String
  name : String
  deriving DecidableEq

namespace RepositoryRequest

/-- The repository in an error. -/
def target (r : RepositoryRequest) : String := r.owner ++ "/" ++ r.name

/-- How the properties of a repository stand in Json. -/
def shape : Json.Shape RepositoryRequest :=
  .record "RepositoryRequest" (.required "owner" .string <| .required "name" .string .done)
    (fun (owner, name, _) => .ok ⟨owner, name⟩) fun r => (r.owner, r.name, ())

end RepositoryRequest

end Provision.Repository
