import Provision.Shell.Glob
import Provision.Shell.State

/-!
# Names of files

A word that is a pattern stands for the names of the files that it fits, in order. A name that starts
with a dot is only meant by a pattern that starts with one.
-/

namespace Provision.Shell.Names

/-- A word between its slashes. -/
def components : Glyphs → List Glyphs
  | [] => [[]]
  | g :: rest =>
    if g.byte = '/' then [] :: components rest
    else
      match components rest with
      | [] => [[g]]
      | c :: cs => (g :: c) :: cs

/-- How names are compared with patterns. -/
structure Style where
  extended : Bool
  /-- Whether names that start with a dot are meant too. -/
  hidden : Bool
  folded : Bool
  /-- Whether two asterisks stand for directories within each other. -/
  nested : Bool

/-- Whether a name fits a component. -/
def fits (style : Style) (component : Glyphs) (name : Bytes) : Bool :=
  let dotted := component.head?.any fun g => g.byte = '.'
  (name.head? ≠ some '.' || dotted || style.hidden) &&
    (glob style.extended component).fits style.folded name

/-- Where names are looked for. -/
structure Searched where
  machine : Machine
  here : Place

/-- A path, of which an empty one means the place where one is. -/
def orHere (path : Bytes) : Bytes := if path.isEmpty then ['.'] else path

/-- The names in a directory, in order. -/
def namesIn (t : Searched) (path : Bytes) : List Bytes :=
  match t.machine.locate t.here true (orHere path) with
  | .ok place =>
    match t.machine.files.entryAt place with
    | some .directory => (t.machine.files.names place).mergeSort fun a b => !(b < a)
    | _ => []
  | .error _ => []

/-- Whether a path leads to a directory. -/
def isDirectory (t : Searched) (path : Bytes) : Bool :=
  match t.machine.find t.here true (orHere path) with
  | .ok .directory => true
  | _ => false

/-- Whether there is something at a path. -/
def isThere (t : Searched) (path : Bytes) : Bool :=
  (t.machine.find t.here false path).toOption.isSome

/-- The paths of all directories below one, and its own. -/
def below (style : Style) (t : Searched) : Nat → Bytes → List Bytes
  | 0, path => [path]
  | fuel + 1, path =>
    path :: (namesIn t path).flatMap fun name =>
      let inner := path ++ name ++ ['/']
      if (name.head? ≠ some '.' || style.hidden) && isDirectory t (path ++ name) then
        below style t fuel inner
      else []

/-- The paths that start with one of some paths and go on with components. -/
def go (style : Style) (t : Searched) : List Glyphs → Bytes → List Bytes
  | [], path => [path]
  | [c], path =>
    if Glob.isActiveIn style.extended c then
      if style.nested && Glyphs.bytes c = ['*', '*'] then
        (below style t 64 path).flatMap fun p =>
          (if p = path then [] else [p.dropLast]) ++
            (namesIn t p).filterMap fun name =>
              if fits style c name && !isDirectory t (p ++ name) then some (p ++ name) else none
      else ((namesIn t path).filter (fits style c)).map (path ++ ·)
    else if c.isEmpty then (if isDirectory t path then [path] else [])
    else if isThere t (path ++ Glyphs.bytes c) then [path ++ Glyphs.bytes c] else []
  | c :: cs, path =>
    if c.isEmpty then go style t cs (path ++ ['/'])
    else if Glob.isActiveIn style.extended c then
      if style.nested && Glyphs.bytes c = ['*', '*'] then
        (below style t 64 path).flatMap (go style t cs)
      else
        ((namesIn t path).filter fun name => fits style c name && isDirectory t (path ++ name)).flatMap
          fun name => go style t cs (path ++ name ++ ['/'])
    else go style t cs (path ++ Glyphs.bytes c ++ ['/'])

/-- The paths that fit a pattern, in order. -/
def find (style : Style) (t : Searched) (word : Glyphs) : List Bytes :=
  (go style t (components word) []).mergeSort fun a b => !(b < a)

end Provision.Shell.Names
