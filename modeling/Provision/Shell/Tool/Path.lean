import Provision.Shell.Tool.Options

/-!
# Programs about paths

The last name of a path and what stands before it, and the path without links that leads to the same
place.
-/

namespace Provision.Shell.Tool

/-- A path without the slashes at its end. -/
def withoutEndSlashes (path : Bytes) : Bytes := (path.reverse.dropWhile (· = '/')).reverse

/-- The last name of a path. -/
def lastName (path : Bytes) : Bytes :=
  let t := withoutEndSlashes path
  if t.isEmpty then if path.isEmpty then [] else ['/']
  else (t.reverse.takeWhile (· ≠ '/')).reverse

/-- A name without a suffix, unless there is nothing else. -/
def withoutSuffix (suffix name : Bytes) : Bytes :=
  if suffix.length < name.length && suffix.isSuffixOf name then
    name.take (name.length - suffix.length)
  else name

/-- What stands before the last name of a path. -/
def parentPath (path : Bytes) : Bytes :=
  let t := withoutEndSlashes path
  if t.isEmpty then if path.isEmpty then ['.'] else ['/']
  else if !t.contains '/' then ['.']
  else
    let before := withoutEndSlashes ((t.reverse.dropWhile (· ≠ '/')).reverse)
    if before.isEmpty then ['/'] else before

/-- Writes the last names of paths. -/
def basename : Tool := fun who args =>
  withWords who 1 [flag 'a' "multiple", valued 's' "suffix", flag 'z' "zero"] true args fun w => do
    let ending := if w.has "z" then '\x00' else '\n'
    let write (suffix : Bytes) (paths : List Bytes) : Act Unit :=
      output who (paths.flatMap fun p => withoutSuffix suffix (lastName p) ++ [ending]) 0
    match w.operands with
    | [] => missesOperand who 1
    | path :: rest =>
      if w.has "a" || w.has "s" then write ((w.value? "s").getD []) (path :: rest)
      else
        match rest with
        | [] => write [] [path]
        | [suffix] => write suffix [path]
        | _ :: extra :: _ => extraOperand who 1 extra

/-- Writes what stands before the last names of paths. -/
def dirname : Tool := fun who args =>
  withWords who 1 [flag 'z' "zero"] false args fun w => do
    if w.operands.isEmpty then missesOperand who 1
    else
      let ending := if w.has "z" then '\x00' else '\n'
      output who (w.operands.flatMap fun p => parentPath p ++ [ending]) 0

/-- How much of a path must be there. -/
inductive Presence where
  | all
  | allButLast
  | nothing
  deriving DecidableEq

/-- The place that names lead to, where what is missing counts as a directory. -/
def assumedPlace (m : Machine) : Nat → Place → List Bytes → Place
  | 0, place, _ => place
  | _ + 1, place, [] => place
  | fuel + 1, place, name :: rest =>
    if name = [] || name = ['.'] then assumedPlace m fuel place rest
    else if name = ['.', '.'] then assumedPlace m fuel place.dropLast rest
    else
      let next := place ++ [name]
      match m.files.entryAt next with
      | some (.file (.link target)) =>
        let start := if target.head? = some '/' then [] else place
        assumedPlace m fuel start (pathNames target ++ rest)
      | _ => assumedPlace m fuel next rest

/-- The path without links that leads to where a path leads. -/
def realPath (s : State) (presence : Presence) (path : Bytes) : Except FileFault Bytes :=
  if path.isEmpty then .error .absent
  else
    match presence with
    | .nothing =>
      let start := if path.head? = some '/' then [] else s.here
      .ok (Place.path (assumedPlace s.machine (path.length + 1000) start (pathNames path)))
    | .all => do
      let place ← s.locate path
      let _ ← s.find path
      .ok (Place.path place)
    | .allButLast => do
      let trimmed := withoutEndSlashes path
      if trimmed.isEmpty then .ok ['/']
      else
        let place ← s.locate trimmed
        match s.machine.files.entryAt place.dropLast with
        | some .directory =>
          match s.machine.files.entryAt place with
          | some (.file _) =>
            if trimmed.length < path.length then .error .notDirectory
            else .ok (Place.path place)
          | _ => .ok (Place.path place)
        | some _ => .error .notDirectory
        | none => .error .absent

/-- Writes paths without links. -/
def realpath : Tool := fun who args =>
  withWords who 1
    [flag 'e' "canonicalize-existing", flag 'm' "canonicalize-missing", flag 'L' "logical",
      flag 'P' "physical", flag 'q' "quiet", flag 's' "strip", flag 's' "no-symlinks",
      flag 'z' "zero", longOnly "relative-to" .argument, longOnly "relative-base" .argument] false
    args fun w => do
    if w.operands.isEmpty then missesOperand who 1
    else
      let ending := if w.has "z" then '\x00' else '\n'
      let presence :=
        match w.last? ["e", "m"] with
        | some "e" => Presence.all
        | some _ => .nothing
        | none => .allButLast
      let relative (s : State) (path : Bytes) : Bytes :=
        match (w.value? "relative-to").bind fun t => (realPath s .nothing t).toOption with
        | none => path
        | some base =>
          let a := (pathNames base).filter (!·.isEmpty)
          let b := (pathNames path).filter (!·.isEmpty)
          let common := ((a.zip b).takeWhile fun (x, y) => x = y).length
          let ups := List.replicate (a.length - common) ['.', '.']
          let names := ups ++ b.drop common
          if names.isEmpty then ['.'] else ['/'].intercalate names
      let results ← w.operands.mapM fun p => do
        let s ← get
        match realPath s presence p with
        | .ok path =>
          put who (relative s path ++ [ending])
          return true
        | .error f =>
          if !w.has "q" then complain who (named p ++ ": " ++ f.reason)
          return false
      ends (statusOf (results.all id))

/-- Writes where links lead. -/
def readlink : Tool := fun who args =>
  withWords who 1
    [flag 'f' "canonicalize", flag 'e' "canonicalize-existing", flag 'm' "canonicalize-missing",
      flag 'n' "no-newline", flag 'q' "quiet", flag 's' "silent", flag 'v' "verbose",
      flag 'z' "zero"] false args fun w => do
    if w.operands.isEmpty then missesOperand who 1
    else
      let ending : Bytes :=
        if w.has "z" then ['\x00']
        else if w.has "n" && w.operands.length = 1 then [] else ['\n']
      let presence? :=
        match w.last? ["f", "e", "m"] with
        | some "f" => some Presence.allButLast
        | some "e" => some .all
        | some _ => some .nothing
        | none => none
      let results ← w.operands.mapM fun p => do
        let s ← get
        let target : Except FileFault Bytes :=
          match presence? with
          | some presence => realPath s presence p
          | none =>
            match s.machine.find s.here false p with
            | .ok (.file (.link target)) => .ok target
            | .ok _ => .error .invalid
            | .error f => .error f
        match target with
        | .ok t =>
          put who (t ++ ending)
          return true
        | .error f =>
          if w.has "v" then complain who (named p ++ ": " ++ f.reason)
          return false
      ends (statusOf (results.all id))

end Provision.Shell.Tool
