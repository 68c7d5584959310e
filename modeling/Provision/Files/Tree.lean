import Provision.Files.Fault
import Provision.Text.Bytes

/-!
# File trees

A file tree tells what is where: every place is named by the names on the way from the root. A path
is followed name by name: a single dot stays where it is, a double dot goes back, and whatever is
left behind must be a directory.
-/

namespace Provision

/-- The names on the way from the root to a place. -/
abbrev Place := List Bytes

/-- What is at a place. -/
inductive Entry (α : Type) where
  | directory
  | file (content : α)

/-- What is where, below the root. -/
structure FileTree (α : Type) where
  entries : List (Place × Entry α)
  /-- Where paths start that do not start at the root. -/
  here : Place

/-- The names of a path, with an empty one for every slash that stands alone. -/
def pathNames : Bytes → List Bytes
  | [] => [[]]
  | '/' :: rest => [] :: pathNames rest
  | c :: rest =>
    match pathNames rest with
    | [] => [[c]]
    | n :: ns => (c :: n) :: ns

/-- The path of a place. -/
def Place.path (place : Place) : Bytes :=
  if place.isEmpty then ['/'] else place.flatMap ('/' :: ·)

namespace FileTree

/-- The tree of nothing but the root. -/
def empty : FileTree α := ⟨[], []⟩

/-- What is at a place. -/
def entryAt (t : FileTree α) (place : Place) : Option (Entry α) :=
  if place.isEmpty then some .directory else (t.entries.find? (·.1 = place)).map Prod.snd

/-- The longest name that can be. -/
def longestName : Nat := 255

/-- The longest path that can be. -/
def longestPath : Nat := 4095

/-- The place that some names lead to from another one. -/
def walk (t : FileTree α) : Place → List Bytes → Except FileFault Place
  | place, [] => .ok place
  | place, name :: rest =>
    match t.entryAt place with
    | none => .error .absent
    | some (.file _) => .error .notDirectory
    | some .directory =>
      if longestName < name.length then .error .nameTooLong
      else if name = [] || name = ['.'] then walk t place rest
      else if name = ['.', '.'] then walk t place.dropLast rest
      else walk t (place ++ [name]) rest

/-- The place of a path, where there may be nothing. -/
def place (t : FileTree α) (path : Bytes) : Except FileFault Place :=
  if path.isEmpty then .error .absent
  else if longestPath < path.length then .error .nameTooLong
  else t.walk (if path.head? = some '/' then [] else t.here) (pathNames path)

/-- What is at a path. -/
def find (t : FileTree α) (path : Bytes) : Except FileFault (Entry α) := do
  match t.entryAt (← t.place path) with
  | some e => .ok e
  | none => .error .absent

/-- The tree with something put at a place, in place of what was there. -/
def put (t : FileTree α) (place : Place) (e : Entry α) : FileTree α :=
  { t with entries := (place, e) :: t.entries.filter (·.1 ≠ place) }

/-- The tree without what is at a place and below it. -/
def remove (t : FileTree α) (place : Place) : FileTree α :=
  { t with entries := t.entries.filter fun e => !place.isPrefixOf e.1 }

/-- The names of what is directly below a place. -/
def names (t : FileTree α) (place : Place) : List Bytes :=
  t.entries.filterMap fun e =>
    match e.1.getLast? with
    | some name => if e.1 = place ++ [name] then some name else none
    | none => none

end FileTree

end Provision
