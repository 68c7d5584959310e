import Provision.Shell.Builtin.Output
import Provision.Shell.Builtin.Options

/-!
# Commands that change the directory

A shell is at a place, and remembers the path on which it came there. Other paths wait on a stack to
be come back to.
-/

namespace Provision.Shell

/-! ## Paths -/

/-- The path of some names, after as many slashes as it starts with. -/
def pathAfter (slashes : Bytes) (names : List Bytes) : Bytes :=
  if names.isEmpty then slashes else slashes ++ ['/'].intercalate names

/-- The names of a path without dots, where what is left behind by two dots is a directory; or why
it is none. -/
def withoutDots (s : State) (slashes : Bytes) : List Bytes → List Bytes →
    Except FileFault (List Bytes)
  | taken, [] => .ok taken
  | taken, name :: rest =>
    if name.isEmpty || name = ['.'] then withoutDots s slashes taken rest
    else if name = ['.', '.'] then
      match s.find (pathAfter slashes taken) with
      | .ok .directory => withoutDots s slashes taken.dropLast rest
      | .ok (.file _) => .error .notDirectory
      | .error f => .error f
    else withoutDots s slashes (taken ++ [name]) rest

/-- A path from the root without dots. -/
def absolutePath (s : State) (path : Bytes) : Except FileFault Bytes := do
  let full := if path.head? = some '/' then path else s.path ++ '/' :: path
  let slashes := full.takeWhile (· = '/')
  let start : Bytes := if slashes.length = 2 then ['/', '/'] else ['/']
  return pathAfter start (← withoutDots s start [] (pathNames full))

/-- Where one comes to on a path, and the path that one came on. -/
def destination (s : State) (physical : Bool) (path : Bytes) : Except FileFault (Place × Bytes) := do
  let full ← if physical then pure path else absolutePath s path
  let place ← s.locate full
  match s.machine.files.entryAt place with
  | none => .error .absent
  | some (.file _) => .error .notDirectory
  | some .directory => return (place, if physical then Place.path place else full)

/-- A variable that tells a directory is changed; tells whether it could be. -/
def keepPath (name : String) (path : Bytes) : Act Bool := do
  if (← get).isReadOnly name.toList then
    complain (name ++ ": readonly variable")
    return false
  modify fun s => s.setText name.toList path
  return true

/-- Goes to a place on a path; tells whether the variables that tell it could be changed. -/
def arriveAt (place : Place) (path : Bytes) : Act Bool := do
  let s ← get
  set { s with here := place, path }
  let old := s.textOf "PWD"
  if ← keepPath "OLDPWD" old then keepPath "PWD" path else return false

/-- The directories in which a path may start. -/
def startsOf (s : State) (dir : Bytes) : List Bytes :=
  let names := pathNames dir
  if dir.head? = some '/' || names.head? = some ['.'] || names.head? = some ['.', '.'] then []
  else
    let listed := s.textOf "CDPATH"
    if listed.isEmpty then [] else ((shown listed).splitOn ":").map String.toList

/-- Goes to a directory, and writes its path if it was not told in full or shall be told; tells if
one came there. -/
def goTo (who : String) (physical tells : Bool) (dir : Bytes) : Act Bool := do
  let s ← get
  let found := (startsOf s dir).findSome? fun start =>
    let path := if start.isEmpty then dir else start ++ '/' :: dir
    (destination s physical path).toOption.map fun d => (d, !start.isEmpty && start ≠ ['.'])
  let arrive (d : Place × Bytes) (tells : Bool) : Act Bool := do
    let ok ← arriveAt d.1 d.2
    if ok && tells then
      let _ ← emit 1 (d.2 ++ ['\n'])
    return ok
  match found with
  | some (d, named) => arrive d (named || tells)
  | none =>
    match destination s physical dir with
    | .ok d => arrive d tells
    | .error f =>
      match s.dialect with
      | .bash => complain (who ++ ": " ++ shown dir ++ ": " ++ f.reason)
      | .plain => complain (who ++ ": can't cd to " ++ shown dir)
      return false

/-! ## The commands -/

/-- Goes to a directory. -/
def cd (args : List Bytes) : Act Unit := do
  let s ← get
  let plain := s.dialect = .plain
  let failed := if plain then 2 else 1
  withOptions "cd" "cd [-L|[-P [-e]] [-@]] [dir]" (if plain then "LP" else "LPe") "" args
    fun os rest => do
      let physical := ((os.map Prod.fst).filter fun c => c = 'L' || c = 'P').getLast? = some 'P' ||
        s.has "physical"
      let go (tells : Bool) (dir : Bytes) : Act Unit := do
        if dir.isEmpty then ends 0
        else ends (if ← goTo "cd" physical tells dir then 0 else failed)
      match rest with
      | [] =>
        match s.parameter? "HOME".toList with
        | some home => go false home
        | none => if plain then ends 0 else fail 1 "cd: HOME not set"
      | [['-']] =>
        match s.parameter? "OLDPWD".toList with
        | some old => go true (if old.isEmpty then s.path else old)
        | none => if plain then go true s.path else fail 1 "cd: OLDPWD not set"
      | dir :: more =>
        if !more.isEmpty && !plain then fail 1 "cd: too many arguments" else go false dir

/-- Writes the directory where one is. -/
def pwd (args : List Bytes) : Act Unit := do
  withOptions "pwd" "pwd [-LP]" "LP" "" args fun os _ => do
    let s ← get
    let physical := (os.map Prod.fst).getLast? = some 'P'
    writeOut "pwd" ((if physical then Place.path s.here else s.path) ++ ['\n']) 0

/-- A path in which the home directory is abbreviated. -/
def abbreviated (s : State) (path : Bytes) : Bytes :=
  let home := s.textOf "HOME"
  if home.length > 1 && (path = home || (home ++ ['/']).isPrefixOf path) then
    '~' :: path.drop home.length
  else path

/-- All paths that wait, after that of the directory where one is. -/
def State.stack (s : State) : List Bytes := s.path :: s.directories

/-- Writes the paths that wait. -/
def tellStack : Act Unit := do
  let s ← get
  let _ ← emit 1 ([' '].intercalate (s.stack.map (abbreviated s)) ++ ['\n'])
  ends 0

/-- The position in a stack that a word means, counted from its start or end; none if it is no
number. -/
def stackPosition? (size : Nat) (w : Bytes) : Option Int :=
  match w with
  | '+' :: ds =>
    if !ds.isEmpty && ds.all Char.isDigit then some (State.digitsNumber ds) else none
  | '-' :: ds =>
    if !ds.isEmpty && ds.all Char.isDigit then some ((size : Int) - 1 - State.digitsNumber ds)
    else none
  | _ => none

/-- A position is out of the stack. -/
def refusePosition (who : String) (w : Bytes) : Act Unit := do
  let s ← get
  if s.directories.isEmpty && who ≠ "dirs" then fail 1 (who ++ ": directory stack empty")
  else
    let w := if who = "dirs" then w.drop 1 else w
    fail 1 (who ++ ": " ++ shown w ++ ": directory stack index out of range")

/-- How `pushd` and `popd` are used. -/
def pushdForm : String := "pushd [-n] [+N | -N | dir]"

/-- How `popd` is used. -/
def popdForm : String := "popd [-n] [+N | -N]"

/-- Goes to a path of the stack, and leaves others waiting. -/
def goToFirst (who : String) (stack : List Bytes) : Act Unit := do
  match stack with
  | [] => ends 1
  | dir :: rest =>
    if ← goTo who false false dir then
      modify fun s => { s with directories := rest }
      tellStack
    else ends 1

/-- Goes to a directory, to come back later. -/
def pushd (args : List Bytes) : Act Unit := do
  let s ← get
  let stays := args.head? = some ['-', 'n']
  let args := if stays then args.drop 1 else args
  let args := if args.head? = some ['-', '-'] then args.drop 1 else args
  match args with
  | [] =>
    match s.directories with
    | [] => fail 1 "pushd: no other directory"
    | d :: rest => goToFirst "pushd" (d :: s.path :: rest)
  | [w] =>
    match stackPosition? s.stack.length w with
    | some i =>
      if s.directories.isEmpty || i < 0 || (s.stack.length : Int) ≤ i then refusePosition "pushd" w
      else goToFirst "pushd" (s.stack.drop i.toNat ++ s.stack.take i.toNat)
    | none =>
      if w.length > 1 && w.head? = some '-' then
        complain ("pushd: " ++ shown w ++ ": invalid number")
        usage "pushd" pushdForm
      else if stays then
        set { s with directories := w :: s.directories }
        tellStack
      else if w = ['-'] && (s.parameter? "OLDPWD".toList).isNone then fail 1 "pushd: OLDPWD not set"
      else if ← goTo "pushd" false false (if w = ['-'] then s.textOf "OLDPWD" else w) then
        modify fun t => { t with directories := s.stack }
        tellStack
      else ends 1
  | _ => fail 1 "pushd: too many arguments"

/-- Comes back to a directory. -/
def popd (args : List Bytes) : Act Unit := do
  let s ← get
  let stays := args.head? = some ['-', 'n']
  let args := if stays then args.drop 1 else args
  let args := if args.head? = some ['-', '-'] then args.drop 1 else args
  let refuse (w : Bytes) (why : String) : Act Unit := do
    complain ("popd: " ++ shown w ++ why)
    usage "popd" popdForm
  match args with
  | [] =>
    match s.directories with
    | [] => fail 1 "popd: directory stack empty"
    | d :: rest =>
      if stays then
        set { s with directories := rest }
        tellStack
      else goToFirst "popd" (d :: rest)
  | w :: _ =>
    match stackPosition? s.stack.length w with
    | some i =>
      if s.directories.isEmpty || i < 0 || (s.stack.length : Int) ≤ i then refusePosition "popd" w
      else if i = 0 && !stays then goToFirst "popd" s.directories
      else
        set { s with directories := s.stack.eraseIdx i.toNat |>.drop 1 }
        tellStack
    | none =>
      if w.head? = some '-' then refuse w ": invalid number" else refuse w ": invalid argument"

/-- Shows the directories that wait. -/
def dirs (args : List Bytes) : Act Unit := do
  let s ← get
  let isOption (w : Bytes) : Bool :=
    match w with
    | '-' :: c :: cs => (c :: cs).all ['c', 'l', 'p', 'v'].contains
    | _ => false
  let letters := (args.takeWhile isOption).flatten
  let rest := args.dropWhile isOption
  let told (path : Bytes) : Bytes := if letters.contains 'l' then path else abbreviated s path
  match rest with
  | w :: _ =>
    match stackPosition? s.stack.length w with
    | some i =>
      match (if i < 0 then none else s.stack[i.toNat]?) with
      | some path =>
        let _ ← emit 1 (told path ++ ['\n'])
        ends 0
      | none => refusePosition "dirs" w
    | none =>
      complain ("dirs: " ++ shown w ++
        (if w.head? = some '-' then ": invalid number" else ": invalid argument"))
      usage "dirs" "dirs [-clpv] [+N] [-N]"
  | [] =>
    if letters.contains 'c' then
      set { s with directories := [] }
      ends 0
    else
      let out :=
        if letters.contains 'v' then
          (s.stack.zipIdx).flatMap fun (path, i) =>
            (if i < 10 then [' '] else []) ++ (toString i).toList ++ [' ', ' '] ++ told path ++ ['\n']
        else if letters.contains 'p' then s.stack.flatMap fun path => told path ++ ['\n']
        else [' '].intercalate (s.stack.map told) ++ ['\n']
      let _ ← emit 1 out
      ends 0

end Provision.Shell
