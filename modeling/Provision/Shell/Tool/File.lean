import Provision.Shell.Tool.Date
import Provision.Shell.Tool.Mode
import Provision.Shell.Tool.Path

/-!
# Programs that change files

Making, removing, copying and moving files, directories and links.
-/

namespace Provision.Shell.Tool

/-- The place of a path whose last link is not followed, and what is there. -/
def itself (s : State) (path : Bytes) : Except FileFault (Place × Entry FileRef) := do
  let place ← s.machine.locate s.here false path
  match s.machine.files.entryAt place with
  | none => .error .absent
  | some .directory => .ok (place, .directory)
  | some e =>
    if path.getLast? = some '/' then
      match s.find path with
      | .ok .directory => .ok (place, e)
      | .ok _ => .error .notDirectory
      | .error f => .error f
    else .ok (place, e)

/-- The place of a path and what is there. -/
def reached (s : State) (path : Bytes) : Except FileFault (Place × Entry FileRef) := do
  let place ← s.locate path
  let e ← s.find path
  if path.getLast? = some '/' then
    match e with
    | .directory => .ok (place, e)
    | _ => .error .notDirectory
  else .ok (place, e)

/-- Whether something is a directory. -/
def isDirectory : Entry FileRef → Bool
  | .directory => true
  | _ => false

/-- Whether a path leads to a directory. -/
def leadsToDirectory (s : State) (path : Bytes) : Bool :=
  match s.find path with
  | .ok .directory => true
  | _ => false

/-- Whether nothing is below a place. -/
def isEmptyDirectory (m : Machine) (place : Place) : Bool := (m.files.names place).isEmpty

/-- The machine without what is at a place and below it. -/
def removed (m : Machine) (place : Place) : Machine :=
  { m with
    files := m.files.remove place
    modes := m.modes.filter fun e => !place.isPrefixOf e.1
    changes := m.changes + 1 }

/-- A path below another one. -/
def below (path name : Bytes) : Bytes :=
  if path.getLast? = some '/' then path ++ name else path ++ '/' :: name

/-- Asks a question; nobody answers but the input. -/
def agrees (who : Bytes) (question : String) : Act Bool := do
  say (who ++ ": ".toList ++ question.toList ++ " ".toList)
  match ← readable 0 with
  | .ok bytes =>
    let line := bytes.takeWhile (· ≠ '\n')
    took 0 (line.length + 1)
    return line.head? = some 'y' || line.head? = some 'Y'
  | .error _ => return false

/-- What a file is called in questions. -/
def kindName (m : Machine) : Entry FileRef → String
  | .directory => "directory"
  | .file (.regular n) =>
    if ((m.nodes[n]?).map Node.size).getD 0 = 0 then "regular empty file" else "regular file"
  | .file (.link _) => "symbolic link"
  | .file (.device _) => "character special file"
  | .file (.program _) => "regular file"

/-! ## Removing -/

/-- The places below one, those of a directory before it. -/
def childrenFirst (m : Machine) (place : Place) : List Place :=
  let rec go : Nat → Place → List Place
    | 0, p => [p]
    | fuel + 1, p => (m.files.names p).reverse.flatMap (fun n => go fuel (p ++ [n])) ++ [p]
  go 64 place

/-- Removes files. -/
def rm : Tool := fun who args =>
  withWords who 1
    [flag 'f' "force", flag 'i' "", flag 'I' "", longOnly "interactive" .perhaps,
      longOnly "one-file-system" .nothing, longOnly "no-preserve-root" .nothing,
      longOnly "preserve-root" .perhaps, flag 'r' "recursive", flag 'R' "", flag 'd' "dir",
      flag 'v' "verbose"] false args fun w => do
    let force := w.last? ["f", "i"] = some "f"
    let asks := w.last? ["f", "i"] = some "i"
    let recursive := w.has "r" || w.has "R"
    if w.operands.isEmpty then
      if w.has "f" then ends 0 else missesOperand who 1
    else
      let results ← w.operands.mapM fun path => do
        let s ← get
        let refuse (f : FileFault) : Act Bool := do
          complain who ("cannot remove " ++ quoted path ++ ": " ++ f.reason)
          return false
        let last := lastName path
        if recursive && (last = ['.'] || last = ['.', '.']) then
          complain who ("refusing to remove '.' or '..' directory: skipping " ++ quoted path)
          return false
        else
          match itself s path with
          | .error .absent => if force then return true else refuse .absent
          | .error .notDirectory => if force then return true else refuse .notDirectory
          | .error f => refuse f
          | .ok (place, e) =>
            if place.isEmpty && recursive then
              complain who "it is dangerous to operate recursively on '/'"
              complain who "use --no-preserve-root to override this failsafe"
              return false
            else if isDirectory e && !recursive then
              if w.has "d" then
                if isEmptyDirectory s.machine place then
                  set { s with machine := removed s.machine place }
                  if w.has "v" then put who ("removed directory " ++ quoted path ++ "\n").toList
                  return true
                else refuse .notEmpty
              else refuse .isDirectory
            else
              let question :=
                if isDirectory e then
                  (if isEmptyDirectory s.machine place then "remove directory " else
                    "descend into directory ") ++ quoted path ++ "?"
                else "remove " ++ kindName s.machine e ++ " " ++ quoted path ++ "?"
              let yes ← if asks then agrees who question else pure true
              if !yes then return true
              else
                let targets := if isDirectory e then childrenFirst s.machine place else [place]
                modify fun s => { s with machine := removed s.machine place }
                if w.has "v" then
                  targets.forM fun t => do
                    let name := withoutEndSlashes path ++ (t.drop place.length).flatMap ('/' :: ·)
                    let isDir : Bool :=
                      match s.machine.files.entryAt t with
                      | some .directory => true
                      | _ => false
                    put who ((if isDir then "removed directory " else "removed ") ++ quoted name ++
                      "\n").toList
                return true
      ends (statusOf (results.all id))

/-- Removes one file. -/
def unlink : Tool := fun who args =>
  withWords who 1 [] false args fun w => do
    match w.operands with
    | [] => missesOperand who 1
    | [path] =>
      let s ← get
      match itself s path with
      | .error f => fail who 1 ("cannot unlink " ++ quoted path ++ ": " ++ f.reason)
      | .ok (place, e) =>
        if isDirectory e then
          fail who 1 ("cannot unlink " ++ quoted path ++ ": " ++ FileFault.isDirectory.reason)
        else
          set { s with machine := removed s.machine place }
          ends 0
    | _ :: extra :: _ => extraOperand who 1 extra

/-- Removes directories. -/
def rmdir : Tool := fun who args =>
  withWords who 1
    [flag 'p' "parents", flag 'v' "verbose", longOnly "ignore-fail-on-non-empty" .nothing] false
    args fun w => do
    if w.operands.isEmpty then missesOperand who 1
    else
      let remove (path : Bytes) : Act Bool := do
        let s ← get
        if w.has "v" then put who ("rmdir: removing directory, " ++ quoted path ++ "\n").toList
        let refuse (f : FileFault) : Act Bool := do
          complain who ("failed to remove " ++ quoted path ++ ": " ++ f.reason)
          return false
        match itself s path with
        | .error f => refuse f
        | .ok (place, .directory) =>
          if isEmptyDirectory s.machine place then
            set { s with machine := removed s.machine place }
            return true
          else if w.has "ignore-fail-on-non-empty" then return false
          else refuse .notEmpty
        | .ok _ => refuse .notDirectory
      let rec parents : Nat → Bytes → Act Bool
        | 0, _ => return true
        | fuel + 1, path => do
          let p := withoutEndSlashes path
          if !p.contains '/' then return true
          else
            let up := parentPath p
            if up = ['/'] || up = ['.'] then return true
            else if ← remove up then parents fuel up
            else return w.has "ignore-fail-on-non-empty"
      let results ← w.operands.mapM fun path => do
        let ok ← remove path
        if ok && w.has "p" then parents path.length path
        else return ok || w.has "ignore-fail-on-non-empty"
      ends (statusOf (results.all id))

/-! ## Making -/

/-- Makes a directory at a path; tells why that cannot be done. -/
def makeDirectory (path : Bytes) (mode : Nat) : Act (Option FileFault) := do
  let s ← get
  match s.machine.locate s.here false (if path = ['/'] then path else withoutEndSlashes path) with
  | .error f => return some f
  | .ok place =>
    match s.machine.files.entryAt place with
    | some _ => return some .alreadyThere
    | none =>
      match s.machine.files.entryAt place.dropLast with
      | some .directory =>
        set { s with machine := s.machine.createDirectory place mode }
        return none
      | some _ => return some .notDirectory
      | none => return some .absent

/-- Makes directories. -/
def mkdir : Tool := fun who args =>
  withWords who 1
    [valued 'm' "mode", flag 'p' "parents", flag 'v' "verbose", flag 'Z' "context"] false args
    fun w => do
    let umask := (← get).umask
    let usual := 0o777 &&& (0o7777 ^^^ umask)
    let mode? : Option (Option Nat) := (w.value? "m").map fun t =>
      (modeChange? t).map fun c => c.apply umask true 0o777
    match w.operands, mode? with
    | [], _ => missesOperand who 1
    | _, some none => fail who 1 ("invalid mode " ++ quoted ((w.value? "m").getD []))
    | paths, mode? =>
      let mode := (mode?.join).getD usual
      let told (path : Bytes) : Act Unit := do
        if w.has "v" then put who (who ++ (": created directory " ++ quoted path ++ "\n").toList)
      let refuse (path : Bytes) (f : FileFault) : Act Bool := do
        complain who ("cannot create directory " ++ quoted path ++ ": " ++ f.reason)
        return false
      let results ← paths.mapM fun path => do
        if !w.has "p" then
          match ← makeDirectory path mode with
          | none =>
            told path
            return true
          | some f => refuse path f
        else
          let names := pathNames path
          let starts := (List.range names.length).map fun i => ['/'].intercalate (names.take (i + 1))
          let starts := starts.filter fun p => !p.isEmpty && p.getLast? ≠ some '/'
          let rec go : List Bytes → Act Bool
            | [] => return true
            | p :: ps => do
              let s ← get
              match s.find p with
              | .ok .directory => go ps
              | .ok _ => refuse p (if ps.isEmpty then .alreadyThere else .notDirectory)
              | .error .absent =>
                match ← makeDirectory p (if ps.isEmpty then mode else usual) with
                | none =>
                  told p
                  go ps
                | some f => refuse p f
              | .error f => refuse p f
          if path.isEmpty then refuse path .absent else go starts
      ends (statusOf (results.all id))

/-- Makes files, or changes when they were changed. -/
def touch : Tool := fun who args =>
  withWords who 1
    [flag 'a' "", flag 'c' "no-create", valued 'd' "date", flag 'f' "", flag 'h' "no-dereference",
      flag 'm' "", valued 'r' "reference", valued 't' "", longOnly "time" .argument] false args
    fun w => do
    let s ← get
    let now := s.now
    let stamp : Except String (Option Int) :=
      match w.value? "d", w.value? "t", w.value? "r" with
      | some t, _, _ =>
        match instantOf? now t with
        | some n => .ok (some n)
        | none => .error ("invalid date format " ++ quotedText t)
      | none, some t, _ =>
        match stampOf? now true t with
        | some n => .ok (some n)
        | none => .error ("invalid date format " ++ quotedText t)
      | none, none, some path =>
        match s.find path with
        | .error f => .error ("failed to get attributes of " ++ quoted path ++ ": " ++ f.reason)
        | .ok (.file (.regular n)) =>
          .ok (some (((s.machine.nodes[n]?).map Node.stamp).getD 0 + State.epoch))
        | .ok _ => .ok (some State.epoch)
      | none, none, none => .ok none
    match stamp, w.operands with
    | .error e, _ => fail who 1 e
    | _, [] => misused who 1 "missing file operand"
    | .ok stamp, paths =>
      let change (node : Nat) : Act Unit := modify fun s =>
        let m := s.machine
        { s with
          machine := { m with
            nodes := m.nodes.modify node fun n =>
              match stamp with
              | some t => { n with stamp := t - State.epoch, changed := 0 }
              | none => { n with stamp := m.seconds, changed := m.changes + 1 }
            changes := m.changes + 1 } }
      let results ← paths.mapM fun path => do
        let s ← get
        match s.find path with
        | .ok (.file (.regular n)) =>
          change n
          return true
        | .ok _ => return true
        | .error .absent =>
          if w.has "c" then return true
          else if path.getLast? = some '/' then
            complain who ("setting times of " ++ quoted path ++ ": " ++ FileFault.absent.reason)
            return false
          else
            match ← openToWrite path false false true with
            | .ok stream =>
              let t ← get
              match t.machine.streams[stream]? with
              | some (.file n ..) => if stamp.isSome then change n
              | _ => pure ()
              return true
            | .error f =>
              complain who ("cannot touch " ++ quoted path ++ ": " ++ f.reason)
              return false
        | .error f =>
          complain who ("cannot touch " ++ quoted path ++ ": " ++ f.reason)
          return false
      ends (statusOf (results.all id))

/-- Cuts files to a size or fills them up to it. -/
def truncate : Tool := fun who args =>
  withWords who 1
    [flag 'c' "no-create", flag 'o' "io-blocks", valued 'r' "reference", valued 's' "size"] false
    args fun w => do
    let spec := (w.value? "s").getD []
    let sign := (spec.head?).filter fun c => "+-<>/%".toList.contains c
    match w.operands, size? (if sign.isSome then spec.drop 1 else spec) with
    | _, none =>
      if w.has "s" then fail who 1 ("Invalid number: " ++ quotedText spec)
      else misused who 1 "you must specify either '--size' or '--reference'"
    | [], _ => misused who 1 "missing file operand"
    | paths, some n =>
      let results ← paths.mapM fun path => do
        let s ← get
        if w.has "c" && (s.find path).toOption.isNone then return true
        else
          match ← openToWrite path false false true with
          | .error f =>
            complain who ("cannot open " ++ quoted path ++ " for writing: " ++ f.reason)
            return false
          | .ok stream =>
            modify fun s =>
              match s.machine.streams[stream]? with
              | some (.file node ..) =>
                let old := s.machine.content node
                let size :=
                  match sign with
                  | some '+' => old.length + n
                  | some '-' => old.length - n
                  | some '<' => min old.length n
                  | some '>' => max old.length n
                  | some '/' => if n = 0 then 0 else old.length / n * n
                  | some '%' => if n = 0 then 0 else (old.length + n - 1) / n * n
                  | _ => n
                let new := old.take size ++ List.replicate (size - old.length) '\x00'
                { s with machine := s.machine.setContent node new }
              | _ => s
            return true
      ends (statusOf (results.all id))

/-- Letters that nobody would guess. -/
def arbitraryLetters (seed count : Nat) : Bytes :=
  let letters := "abcdefghijklmnopqrstuvwxyzABCDEFGHIJKLMNOPQRSTUVWXYZ0123456789".toList.toArray
  let rec go : Nat → Nat → Bytes
    | 0, _ => []
    | n + 1, x =>
      let x := (x * 6364136223846793005 + 1442695040888963407) % 0x10000000000000000
      (letters[x / 0x200000000 % 62]?).getD 'a' :: go n x
  go count (seed * 7919 + 17)

/-- Makes a file or directory with a name that nobody has. -/
def mktemp : Tool := fun who args =>
  withWords who 1
    [flag 'd' "directory", flag 'q' "quiet", flag 't' "", flag 'u' "dry-run", valued 'p' "",
      longOnly "tmpdir" .perhaps, longOnly "suffix" .argument] false args fun w => do
    match w.operands with
    | _ :: _ :: _ => misused who 1 "too many templates"
    | operands =>
      let s ← get
      let given := operands.head?
      let template := (given.getD "tmp.XXXXXXXXXX".toList) ++ (w.value? "suffix").getD []
      let folder := s.textOf "TMPDIR"
      let usual := if folder.isEmpty then "/tmp".toList else folder
      let template :=
        if given.isNone || w.has "p" || w.has "t" || w.has "tmpdir" then
          let dir := ((w.value? "p" <|> w.value? "tmpdir").filter fun t => !t.isEmpty).getD usual
          below dir template
        else template
      let body := (template.reverse.dropWhile (· ≠ 'X')).reverse
      let ending := template.drop body.length
      let marks := (body.reverse.takeWhile (· = 'X')).length
      if marks < 3 then
        fail who 1 ("too few X's in template " ++ quotedText ((given.getD template)))
      else
        let name := body.take (body.length - marks) ++
          arbitraryLetters (s.machine.changes * 131 + s.machine.lastProcess) marks ++ ending
        let kind := if w.has "d" then "directory" else "file"
        let refuse (f : FileFault) : Act Unit :=
          fail who 1 ("failed to create " ++ kind ++ " via template " ++ quotedText template ++ ": " ++
            f.reason)
        if w.has "u" then output who (name ++ ['\n']) 0
        else if w.has "d" then
          match ← makeDirectory name 0o700 with
          | none => output who (name ++ ['\n']) 0
          | some f => refuse f
        else
          match ← openToWrite name false false true with
          | .error f => refuse f
          | .ok stream =>
            modify fun s =>
              match s.machine.streams[stream]? with
              | some (.file node ..) =>
                { s with machine := { s.machine with
                    nodes := s.machine.nodes.modify node fun n => { n with mode := 0o600 } } }
              | _ => s
            output who (name ++ ['\n']) 0

/-! ## Copying -/

/-- What several paths are copied or moved to. -/
inductive Destination where
  /-- Into a directory, under their names. -/
  | inside (directory : Bytes)
  | exactly (path : Bytes)

/-- The sources and the destination that words stand for; none after a diagnostic. -/
def destinationOf (who : Bytes) (w : Words) : Act (Option (List Bytes × Destination)) := do
  let s ← get
  let refuse (text : String) : Act (Option (List Bytes × Destination)) := do
    complain who text
    ends 1
    return none
  let misuse (text : String) : Act (Option (List Bytes × Destination)) := do
    misused who 1 text
    return none
  match w.value? "t", w.operands with
  | some dir, paths =>
    if paths.isEmpty then misuse "missing file operand"
    else
      match s.find dir with
      | .ok .directory => return some (paths, .inside dir)
      | .ok _ => refuse ("target directory " ++ quoted dir ++ ": " ++ FileFault.notDirectory.reason)
      | .error f => refuse ("target directory " ++ quoted dir ++ ": " ++ f.reason)
  | none, [] => misuse "missing file operand"
  | none, [a] => misuse ("missing destination file operand after " ++ quoted a)
  | none, paths =>
    let last := (paths.getLast?).getD []
    let sources := paths.dropLast
    if w.has "T" then
      match sources with
      | [_] => return some (sources, .exactly last)
      | _ => misuse ("extra operand " ++ quoted ((paths[2]?).getD []))
    else
      match s.find last, sources with
      | .ok .directory, _ => return some (sources, .inside last)
      | _, [_] => return some (sources, .exactly last)
      | .ok _, _ => refuse ("target " ++ quoted last ++ ": " ++ FileFault.notDirectory.reason)
      | .error f, _ => refuse ("target " ++ quoted last ++ ": " ++ f.reason)

/-- The path that a source is copied or moved to. -/
def Destination.pathFor (d : Destination) (source : Bytes) : Bytes :=
  match d with
  | inside dir => below dir (lastName source)
  | exactly path => path

/-- How files are copied. -/
structure Copying where
  recursive : Bool
  verbose : Bool
  /-- Files that are there are left as they are. -/
  keeps : Bool
  /-- Files that are there are left if they are newer. -/
  updates : Bool
  /-- Links are copied as links. -/
  links : Bool
  preserves : Bool
  asks : Bool
  makesLinks : Option Bool

/-- Copies what is at a path to another one; tells whether that was done. -/
def copyOne (who : Bytes) (c : Copying) : Nat → Bytes → Bytes → Act Bool
  | 0, _, _ => return false
  | fuel + 1, source, target => do
    let s ← get
    let refuse (text : String) : Act Bool := do
      complain who text
      return false
    let told : Act Unit := do
      if c.verbose then put who (quoted source ++ " -> " ++ quoted target ++ "\n").toList
    match if c.links then itself s source else reached s source with
    | .error f => refuse ("cannot stat " ++ quoted source ++ ": " ++ f.reason)
    | .ok (place, .directory) =>
      if !c.recursive then refuse ("-r not specified; omitting directory " ++ quoted source)
      else
        match s.machine.locate s.here true target with
        | .error f => refuse ("cannot create directory " ++ quoted target ++ ": " ++ f.reason)
        | .ok there =>
          if place.isPrefixOf there && place ≠ there then
            refuse ("cannot copy a directory, " ++ quoted source ++ ", into itself, " ++
              quoted target)
          else if place = there then
            refuse (quoted source ++ " and " ++ quoted target ++ " are the same file")
          else
            let ready ←
              match s.machine.files.entryAt there with
              | some .directory => pure true
              | some _ =>
                refuse ("cannot overwrite non-directory " ++ quoted target ++ " with directory " ++
                  quoted source)
              | none => do
                match ← makeDirectory target (s.machine.modeOf place .directory) with
                | none =>
                  told
                  pure true
                | some f => refuse ("cannot create directory " ++ quoted target ++ ": " ++ f.reason)
            if !ready then return false
            else
              let names := (s.machine.files.names place).reverse
              let results ← names.mapM fun n =>
                copyOne who { c with links := c.links || c.recursive } fuel (below source n)
                  (below target n)
              return results.all id
    | .ok (place, .file e) =>
      let existing := reached s target
      match existing with
      | .ok (_, .directory) =>
        refuse ("cannot overwrite directory " ++ quoted target ++ " with non-directory")
      | _ =>
        let isThere := existing.toOption.isSome
        let same : Bool :=
          match existing with
          | .ok (there, other) =>
            match e, other with
            | .regular m, .file (.regular n) => m = n
            | _, _ => there = place
          | .error _ => false
        if same then refuse (quoted source ++ " and " ++ quoted target ++ " are the same file")
        else if isThere && c.keeps then return true
        else
          let newer : Bool :=
            match e, existing with
            | .regular m, .ok (_, .file (.regular n)) =>
              match s.machine.nodes[m]?, s.machine.nodes[n]? with
              | some a, some b => b.stamp < a.stamp || a.stamp = b.stamp && b.changed < a.changed
              | _, _ => true
            | _, _ => true
          if isThere && c.updates && !newer then return true
          else
            let yes ←
              if isThere && c.asks then agrees who ("overwrite " ++ quoted target ++ "?")
              else pure true
            if !yes then return false
            else
              match e, c.makesLinks with
              | .link text, none =>
                match s.machine.locate s.here false target with
                | .error f =>
                  refuse ("cannot create symbolic link " ++ quoted target ++ ": " ++ f.reason)
                | .ok there =>
                  set { s with machine := { s.machine with
                    files := s.machine.files.put there (.file (.link text)) } }
                  told
                  return true
              | e, some symbolic =>
                match s.machine.locate s.here false target with
                | .error f => refuse ("cannot create link " ++ quoted target ++ ": " ++ f.reason)
                | .ok there =>
                  let entry : FileRef := if symbolic then .link source else e
                  set { s with machine := { s.machine with
                    files := s.machine.files.put there (.file entry) } }
                  told
                  return true
              | e, none =>
                let content ←
                  match e with
                  | .regular n => pure (.ok (s.machine.content n))
                  | _ => readFile source
                match content with
                | .error f =>
                  refuse ("cannot open " ++ quoted source ++ " for reading: " ++ f.reason)
                | .ok bytes =>
                  match ← openToWrite target false false false with
                  | .error f =>
                    let f := if f = .isDirectory && target.getLast? = some '/' then
                      FileFault.notDirectory else f
                    refuse ("cannot create regular file " ++ quoted target ++ ": " ++ f.reason)
                  | .ok stream =>
                    modify fun s =>
                      match s.machine.write stream s.process bytes with
                      | .ok m =>
                        let m :=
                          match m.streams[stream]?, e with
                          | some (.file new ..), .regular old =>
                            match m.nodes[old]? with
                            | some origin =>
                              let mode :=
                                if c.preserves then origin.mode
                                else if isThere then ((m.nodes[new]?).map Node.mode).getD 0o644
                                else origin.mode &&& (0o7777 ^^^ s.umask)
                              { m with nodes := m.nodes.modify new fun n =>
                                if c.preserves then
                                  { n with mode, stamp := origin.stamp, changed := origin.changed }
                                else { n with mode } }
                            | none => m
                          | some (.file new ..), .program _ =>
                            { m with nodes := m.nodes.modify new fun n => { n with mode := 0o755 } }
                          | _, _ => m
                        { s with machine := m }
                      | .error _ => s
                    told
                    return true

/-- Copies files. -/
def cp : Tool := fun who args =>
  withWords who 1
    [flag 'a' "archive", longOnly "attributes-only" .nothing, flag 'b' "", longOnly "backup" .perhaps,
      flag 'd' "", flag 'f' "force", flag 'H' "", flag 'i' "interactive", flag 'l' "link",
      flag 'L' "dereference", flag 'n' "no-clobber", flag 'P' "no-dereference", flag 'p' "",
      longOnly "preserve" .perhaps, longOnly "no-preserve" .argument, longOnly "parents" .nothing,
      flag 'R' "recursive", flag 'r' "", longOnly "remove-destination" .nothing,
      flag 's' "symbolic-link", valued 'S' "suffix", valued 't' "target-directory",
      flag 'T' "no-target-directory", flag 'u' "", longOnly "update" .perhaps,
      flag 'v' "verbose", flag 'x' "one-file-system"] false args fun w => do
    if w.has "n" then
      complain who
        "warning: behavior of -n is non-portable and may change in future; use --update=none instead"
    match ← destinationOf who w with
    | none => pure ()
    | some (sources, d) =>
      let onlyNew := w.value? "update" = some "none".toList
      let recursive := w.has "R" || w.has "r" || w.has "a"
      let c : Copying :=
        { recursive, verbose := w.has "v", keeps := w.has "n" || onlyNew
          updates := w.has "u" || w.has "update" && !onlyNew
          links := (w.has "P" || w.has "d" || w.has "a" || recursive) && !w.has "L" && !w.has "H"
          preserves := w.has "p" || w.has "a" || w.has "preserve"
          asks := w.last? ["i", "f", "n"] = some "i"
          makesLinks := if w.has "s" then some true else if w.has "l" then some false else none }
      let results ← sources.mapM fun source => copyOne who c 64 source (d.pathFor source)
      ends (statusOf (results.all id))

/-! ## Moving -/

/-- Moves files. -/
def mv : Tool := fun who args =>
  withWords who 1
    [flag 'b' "", longOnly "backup" .perhaps, flag 'f' "force", flag 'i' "interactive",
      flag 'n' "no-clobber", longOnly "no-copy" .nothing, longOnly "exchange" .nothing,
      longOnly "strip-trailing-slashes" .nothing, valued 'S' "suffix",
      valued 't' "target-directory", flag 'T' "no-target-directory", flag 'u' "",
      longOnly "update" .perhaps, flag 'v' "verbose"] false args fun w => do
    match ← destinationOf who w with
    | none => pure ()
    | some (sources, d) =>
      let results ← sources.mapM fun source => do
        let s ← get
        let target := d.pathFor source
        let refuse (text : String) : Act Bool := do
          complain who text
          return false
        match itself s source with
        | .error f => refuse ("cannot stat " ++ quoted source ++ ": " ++ f.reason)
        | .ok (place, e) =>
          let failed (f : FileFault) : Act Bool :=
            refuse ("cannot move " ++ quoted source ++ " to " ++ quoted target ++ ": " ++ f.reason)
          let trimmed := if isDirectory e then withoutEndSlashes target else target
          match s.machine.locate s.here false trimmed with
          | .error f => failed f
          | .ok there =>
            let parent := s.machine.files.entryAt there.dropLast
            let existing := s.machine.files.entryAt there
            let doMove : Act Bool := do
              modify fun s => { s with machine := s.machine.move place there }
              if w.has "v" then
                put who ("renamed " ++ quoted source ++ " -> " ++ quoted target ++ "\n").toList
              return true
            let sameFile : Bool :=
              match e, existing with
              | .file (.regular m), some (.file (.regular n)) => m = n
              | _, _ => false
            if isDirectory e && place.isPrefixOf there then
              refuse ("cannot move " ++ quoted source ++ " to a subdirectory of itself, " ++
                quoted target)
            else if place = there || sameFile then
              refuse (quoted source ++ " and " ++ quoted target ++ " are the same file")
            else
              match parent, existing with
              | some .directory, none =>
                if target.getLast? = some '/' && !isDirectory e then failed .notDirectory
                else doMove
              | some .directory, some .directory =>
                if !isDirectory e then
                  refuse ("cannot overwrite directory " ++ quoted target ++ " with non-directory " ++
                    quoted source)
                else if !isEmptyDirectory s.machine there then
                  refuse ("cannot overwrite " ++ quoted target ++ ": " ++ FileFault.notEmpty.reason)
                else doMove
              | some .directory, some (.file _) =>
                if w.last? ["n", "f", "i"] = some "n" then return true
                else if isDirectory e then
                  refuse ("cannot overwrite non-directory " ++ quoted target ++ " with directory " ++
                    quoted source)
                else
                  let yes ←
                    if w.last? ["n", "f", "i"] = some "i" then
                      agrees who ("overwrite " ++ quoted target ++ "?")
                    else pure true
                  if yes then doMove else return false
              | some _, _ => failed .notDirectory
              | none, _ => failed .absent
      ends (statusOf (results.all id))

/-! ## Links -/

/-- Makes links. -/
def ln : Tool := fun who args =>
  withWords who 1
    [flag 'b' "", flag 'f' "force", flag 'i' "interactive", flag 'L' "logical",
      flag 'n' "no-dereference", flag 'P' "physical", flag 'r' "relative", flag 's' "symbolic",
      valued 't' "target-directory", flag 'T' "no-target-directory", flag 'v' "verbose"] false args
    fun w => do
    let s ← get
    let symbolic := w.has "s"
    let plan : Except String (List (Bytes × Bytes)) :=
      match w.value? "t", w.operands with
      | some dir, paths => .ok (paths.map fun p => (p, below dir (lastName p)))
      | none, [p] => .ok [(p, lastName p)]
      | none, paths =>
        let last := (paths.getLast?).getD []
        let sources := paths.dropLast
        let isLink : Bool :=
          match itself s last with
          | .ok (_, .file (.link _)) => true
          | _ => false
        if leadsToDirectory s last && !(w.has "n" && isLink) && !w.has "T" then
          .ok (sources.map fun p => (p, below last (lastName p)))
        else
          match sources with
          | [p] => .ok [(p, last)]
          | _ =>
            let why := if (s.find last).toOption.isSome then FileFault.notDirectory else .absent
            .error ("target " ++ quoted last ++ ": " ++ why.reason)
    match w.operands, plan with
    | [], _ => misused who 1 "missing file operand"
    | _, .error e => fail who 1 e
    | _, .ok plan =>
      let results ← plan.mapM fun (source, target) => do
        let s ← get
        let refuse (text : String) : Act Bool := do
          complain who text
          return false
        let kind := if symbolic then "symbolic link " else "hard link "
        let make (entry : FileRef) : Act Bool := do
          match s.machine.locate s.here false target with
          | .error f => refuse ("failed to create " ++ kind ++ quoted target ++ ": " ++ f.reason)
          | .ok place =>
            let parent := s.machine.files.entryAt place.dropLast
            match parent, s.machine.files.entryAt place with
            | none, _ =>
              refuse ("failed to create " ++ kind ++ quoted target ++
                (if symbolic then "" else " => " ++ quoted source) ++ ": " ++
                FileFault.absent.reason)
            | _, some .directory =>
              refuse (named target ++ ": cannot overwrite directory")
            | _, some _ =>
              if w.has "f" then
                set { s with machine := { s.machine with
                  files := s.machine.files.put place (.file entry)
                  changes := s.machine.changes + 1 } }
                return true
              else
                refuse ("failed to create " ++ kind ++ quoted target ++ ": " ++
                  FileFault.alreadyThere.reason)
            | _, none =>
              set { s with machine := { s.machine with
                files := s.machine.files.put place (.file entry)
                changes := s.machine.changes + 1 } }
              return true
        let done ←
          if symbolic then
            if w.has "r" then
              let base := (pathNames ((realPath s .nothing (parentPath target)).toOption.getD [])).filter
                (!·.isEmpty)
              let aim := (pathNames ((realPath s .nothing source).toOption.getD [])).filter (!·.isEmpty)
              let common := ((base.zip aim).takeWhile fun (x, y) => x = y).length
              let names := List.replicate (base.length - common) ['.', '.'] ++ aim.drop common
              make (.link (['/'].intercalate names))
            else make (.link source)
          else
            match if w.has "L" then reached s source else itself s source with
            | .error f => refuse ("failed to access " ++ quoted source ++ ": " ++ f.reason)
            | .ok (_, .directory) =>
              refuse (named source ++ ": hard link not allowed for directory")
            | .ok (_, .file e) =>
              let same : Bool :=
                match itself s target with
                | .ok (_, .file other) => other = e && w.has "f"
                | _ => false
              if same then
                refuse (quoted source ++ " and " ++ quoted target ++ " are the same file")
              else make e
        if done && w.has "v" then
          put who (quoted target ++ (if symbolic then " -> " else " => ") ++ quoted source ++
            "\n").toList
        return done
      ends (statusOf (results.all id))

end Provision.Shell.Tool
