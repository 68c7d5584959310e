import Provision.Shell.Tool.Options

/-!
# Modes of files

Who may do what with a file, as twelve bits; how changes of them are described, and how they are
shown.
-/

namespace Provision.Shell.Tool

/-- A step of a change: whose bits, how they change, and which ones. -/
structure ModeStep where
  /-- The users, as the bits of theirs; none if nobody is named. -/
  who : Option Nat
  op : Char
  letters : Bytes
  /-- A class of users whose bits are taken, if there is one. -/
  from? : Option Char

/-- A change of a mode. -/
inductive ModeChange where
  | exactly (mode : Nat)
  | steps (s : List ModeStep)

/-- The bits of a class of users. -/
def whoBits : Char → Nat
  | 'u' => 0o4700
  | 'g' => 0o2070
  | 'o' => 0o1007
  | _ => 0o7777

/-- The steps of one clause, after its users. -/
def modeSteps (who : Option Nat) : Nat → Bytes → Option (List ModeStep)
  | 0, _ => none
  | _ + 1, [] => some []
  | fuel + 1, op :: rest =>
    if op = '+' || op = '-' || op = '=' then
      match rest with
      | c :: after =>
        if c = 'u' || c = 'g' || c = 'o' then
          (modeSteps who fuel after).map (⟨who, op, [], some c⟩ :: ·)
        else
          let letters := rest.takeWhile "rwxXst".toList.contains
          (modeSteps who fuel (rest.drop letters.length)).map (⟨who, op, letters, none⟩ :: ·)
      | [] => some [⟨who, op, [], none⟩]
    else none

/-- The change that a text describes. -/
def modeChange? (t : Bytes) : Option ModeChange :=
  if !t.isEmpty && t.all fun c => '0' ≤ c && c ≤ '7' then
    let n := t.foldl (fun n c => n * 8 + (c.toNat - 48)) 0
    if n ≤ 0o7777 then some (.exactly n) else none
  else if t.isEmpty then none
  else
    let clause (t : Bytes) : Option (List ModeStep) :=
      let who := t.takeWhile "ugoa".toList.contains
      let rest := t.drop who.length
      if rest.isEmpty then none
      else
        let bits := if who.isEmpty then none else some (who.foldl (fun n c => n ||| whoBits c) 0)
        modeSteps bits (rest.length + 1) rest
    ((pieces ',' false (t ++ [','])).mapM clause).map fun s => .steps s.flatten

/-- A mode after a step of a change. -/
def ModeStep.apply (s : ModeStep) (umask : Nat) (isDirectory : Bool) (mode : Nat) : Nat :=
  let bits : Nat :=
    match s.from? with
    | some c =>
      let three :=
        match c with
        | 'u' => mode >>> 6 &&& 7
        | 'g' => mode >>> 3 &&& 7
        | _ => mode &&& 7
      three * 0o111
    | none =>
      s.letters.foldl (fun n c => n |||
        (match c with
          | 'r' => 0o444
          | 'w' => 0o222
          | 'x' => 0o111
          | 'X' => if isDirectory || mode &&& 0o111 ≠ 0 then 0o111 else 0
          | 's' => 0o6000
          | _ => 0o1000)) 0
  let whose := (s.who.getD 0o7777)
  let limit := if s.who.isNone then 0o7777 ^^^ umask else 0o7777
  let change := bits &&& whose &&& limit
  match s.op with
  | '+' => mode ||| change
  | '-' => mode &&& (0o7777 ^^^ change)
  | _ =>
    let kept := if isDirectory then 0o6000 &&& (0o7777 ^^^ bits) else 0
    (mode &&& ((0o7777 ^^^ (whose &&& limit)) ||| kept)) ||| change

/-- A mode after a change. -/
def ModeChange.apply (c : ModeChange) (umask : Nat) (isDirectory : Bool) (mode : Nat) : Nat :=
  match c with
  | exactly n => if isDirectory then n ||| (mode &&& 0o6000) else n
  | steps s => s.foldl (fun m step => step.apply umask isDirectory m) mode

/-- A mode as nine letters. -/
def modeText (mode : Nat) : Bytes :=
  let bit (n : Nat) (c : Char) : Char := if mode &&& n ≠ 0 then c else '-'
  let last (n special : Nat) (c : Char) : Char :=
    if mode &&& special ≠ 0 then if mode &&& n ≠ 0 then c else c.toUpper else bit n 'x'
  [bit 0o400 'r', bit 0o200 'w', last 0o100 0o4000 's', bit 0o040 'r', bit 0o020 'w',
    last 0o010 0o2000 's', bit 0o004 'r', bit 0o002 'w', last 0o001 0o1000 't']

/-- A number in base eight, with so many digits at least. -/
def octalText (width n : Nat) : Bytes :=
  let ds := Nat.toDigits 8 n
  List.replicate (width - ds.length) '0' ++ ds

/-- The places below one, the deepest first or last. -/
def placesBelow (m : Machine) (place : Place) : List Place :=
  ((m.tree place).map Prod.fst).mergeSort fun a b => a.length ≤ b.length

/-- Changes the modes of files. -/
def chmod : Tool := fun who args =>
  let isMode (w : Bytes) : Bool :=
    match w with
    | '-' :: c :: _ => "rwxXstugo".toList.contains c
    | _ => false
  let mode? := args.find? isMode
  let rest := match mode? with
    | some w => args.erase w
    | none => args
  withWords who 1
    [flag 'c' "changes", flag 'f' "silent", flag 'f' "quiet", flag 'v' "verbose",
      flag 'R' "recursive", longOnly "reference" .argument, longOnly "preserve-root" .nothing,
      longOnly "no-preserve-root" .nothing] false rest fun w => do
    let s ← get
    let reference := (w.value? "reference").bind fun p =>
      match s.locate p, s.find p with
      | .ok place, .ok e => some (s.machine.modeOf place e)
      | _, _ => none
    let (spec, paths) :=
      match reference, mode? with
      | some _, _ => ([], w.operands)
      | none, some m => (m, w.operands)
      | none, none => ((w.operands.head?).getD [], w.operands.drop 1)
    if w.operands.isEmpty && mode?.isNone then missesOperand who 1
    else if paths.isEmpty then misused who 1 ("missing operand after " ++ quotedText spec)
    else
      match reference.map ModeChange.exactly <|> modeChange? spec with
      | none => misused who 1 ("invalid mode: " ++ quotedText spec)
      | some change =>
        let results ← paths.mapM fun p => do
          let s ← get
          match s.locate p, s.find p with
          | .ok place, .ok _ =>
            let targets := if w.has "R" then placesBelow s.machine place else [place]
            let targets := if targets.isEmpty then [place] else targets
            let changed ← targets.mapM fun target => do
              let s ← get
              match s.machine.files.entryAt target with
              | none | some (.file (.link _)) => return true
              | some e =>
                let isDirectory : Bool :=
                  match e with
                  | .directory => true
                  | _ => false
                let old := s.machine.modeOf target e
                let new := change.apply s.umask isDirectory old
                set { s with machine := s.machine.setMode target new }
                let name := p ++ (target.drop place.length).flatMap ('/' :: ·)
                if w.has "v" || w.has "c" && old ≠ new then
                  let text (n : Nat) : Bytes := octalText 4 n ++ " (".toList ++ modeText n ++ [')']
                  put who ("mode of ".toList ++ (quoted name).toList ++
                    (if old = new then " retained as ".toList ++ text old
                      else " changed from ".toList ++ text old ++ " to ".toList ++ text new) ++
                    ['\n'])
                let naive := change.apply 0 isDirectory old
                if mode?.isSome && new &&& (0o7777 ^^^ naive) ≠ 0 then
                  complain who (named name ++ ": new permissions are " ++ shown (modeText new) ++
                    ", not " ++ shown (modeText naive))
                  return false
                else return true
            return changed.all id
          | .error f, _ | _, .error f =>
            if !w.has "f" then complain who ("cannot access " ++ quoted p ++ ": " ++ f.reason)
            return false
        ends (statusOf (results.all id))

end Provision.Shell.Tool
