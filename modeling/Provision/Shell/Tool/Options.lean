import Provision.Shell.Access

/-!
# Words of programs

What programs make of the words that they are given: options of one letter may stand together, long
ones may be cut short, and options may stand between other words. Programs name themselves in their
diagnostics as they were called.
-/

namespace Provision.Shell

/-- What a program does with its name and words. -/
abbrev Tool := Bytes → List Bytes → Act Unit

namespace Tool

/-! ## Diagnostics -/

/-- Writes a diagnostic of a program. -/
def complain (who : Bytes) (text : String) : Act Unit := say (who ++ ": ".toList ++ text.toList ++ ['\n'])

/-- Complains, and ends with a status. -/
def fail (who : Bytes) (status : Nat) (text : String) : Act Unit := do
  complain who text
  ends status

/-- Whether a byte of a name needs quotes where names are quoted only if they need it. -/
def needsQuotes (c : Char) : Bool :=
  !(c.isAlphanum || "%+,-./:=@_^".toList.contains c)

/-- The octal form of a byte that cannot be shown. -/
def octalByte (c : Char) : String :=
  let n := c.toNat
  "'$'\\" ++ String.ofList [Char.ofNat (48 + n / 64), Char.ofNat (48 + n / 8 % 8),
    Char.ofNat (48 + n % 8)] ++ "''"

/-- A byte between single quotes. -/
def quotedByte (c : Char) : String :=
  if c = '\'' then "'\\''"
  else if c = '\n' then "'$'\\n''"
  else if c = '\t' then "'$'\\t''"
  else if c = '\r' then "'$'\\r''"
  else if ' ' ≤ c && c ≤ '~' then String.singleton c
  else octalByte c

/-- A name between quotes. -/
def quoted (name : Bytes) : String :=
  if name.contains '\'' && !name.any fun c => c = '"' || c = '\\' || c = '$' || c.toNat = 0x60 ||
      c < ' ' || '~' < c then
    "\"" ++ shown name ++ "\""
  else "'" ++ String.join (name.map quotedByte) ++ "'"

/-- A text between quotes. -/
def quotedText (t : Bytes) : String :=
  let byte (c : Char) : String :=
    if c = '\'' then "\\'"
    else if c = '\\' then "\\\\"
    else if c = '\n' then "\\n"
    else if c = '\t' then "\\t"
    else if ' ' ≤ c && c ≤ '~' then String.singleton c
    else
      let n := c.toNat
      "\\" ++ String.ofList [Char.ofNat (48 + n / 64), Char.ofNat (48 + n / 8 % 8),
        Char.ofNat (48 + n % 8)]
  "'" ++ String.join (t.map byte) ++ "'"

/-- A name, between quotes if it needs them. -/
def named (name : Bytes) : String :=
  if name.isEmpty || name.any needsQuotes || name.head? = some '~' || name.contains ':' then
    quoted name
  else shown name

/-- Points to the help of a program, and ends. -/
def seeHelp (who : Bytes) (status : Nat) : Act Unit := do
  sayLine ("Try '" ++ shown who ++ " --help' for more information.")
  ends status

/-- Complains about the words of a program, and ends. -/
def misused (who : Bytes) (status : Nat) (text : String) : Act Unit := do
  complain who text
  seeHelp who status

/-! ## Options -/

/-- Whether an option takes an argument. -/
inductive Takes where
  | nothing
  | argument
  | perhaps
  deriving DecidableEq

/-- An option of a program: its letter and its long name, if it has them. -/
structure OptionForm where
  letter : Option Char
  long : String
  takes : Takes

/-- An option without an argument. -/
def flag (letter : Char) (long : String) : OptionForm := ⟨some letter, long, .nothing⟩

/-- An option with an argument. -/
def valued (letter : Char) (long : String) : OptionForm := ⟨some letter, long, .argument⟩

/-- An option that has no letter. -/
def longOnly (long : String) (takes : Takes) : OptionForm := ⟨none, long, takes⟩

/-- The key of an option: its letter, or its long name if it has none. -/
def OptionForm.key (o : OptionForm) : String :=
  match o.letter with
  | some c => String.singleton c
  | none => o.long

/-- Options with their arguments, and the other words. -/
structure Words where
  options : List (String × Option Bytes)
  operands : List Bytes

namespace Words

/-- Whether an option was given. -/
def has (w : Words) (key : String) : Bool := w.options.any (·.1 = key)

/-- The argument of an option that was given last. -/
def value? (w : Words) (key : String) : Option Bytes :=
  (w.options.reverse.find? (·.1 = key)).bind Prod.snd

/-- The last of some options that was given. -/
def last? (w : Words) (keys : List String) : Option String :=
  (w.options.reverse.find? fun o => keys.contains o.1).map Prod.fst

end Words

/-- The options of a cluster of letters, and whether the next word was taken; or a complaint. -/
def cluster (forms : List OptionForm) (next : Option Bytes) : Bytes →
    Except String (List (String × Option Bytes) × Bool)
  | [] => .ok ([], false)
  | c :: cs =>
    match forms.find? fun o => o.letter = some c with
    | none => .error ("invalid option -- '" ++ String.singleton c ++ "'")
    | some o =>
      match o.takes with
      | .nothing => (cluster forms next cs).map fun (os, taken) => ((o.key, none) :: os, taken)
      | .perhaps => .ok ([(o.key, if cs.isEmpty then none else some cs)], false)
      | .argument =>
        if !cs.isEmpty then .ok ([(o.key, some cs)], false)
        else
          match next with
          | some a => .ok ([(o.key, some a)], true)
          | none => .error ("option requires an argument -- '" ++ String.singleton c ++ "'")

/-- A long option, and whether the next word was taken; or a complaint. -/
def long (forms : List OptionForm) (next : Option Bytes) (word : Bytes) :
    Except String ((String × Option Bytes) × Bool) :=
  let name := shown (word.takeWhile (· ≠ '='))
  let given := if word.contains '=' then some (word.drop (name.length + 1)) else none
  let candidates := forms.filter fun o => !o.long.isEmpty && o.long.startsWith name
  let chosen :=
    match candidates.find? fun o => o.long = name with
    | some o => [o]
    | none => candidates
  match chosen with
  | [] => .error ("unrecognized option '--" ++ name ++ "'")
  | [o] =>
    match o.takes, given with
    | .nothing, some _ => .error ("option '--" ++ o.long ++ "' doesn't allow an argument")
    | .nothing, none | .perhaps, none => .ok ((o.key, none), false)
    | _, some a => .ok ((o.key, some a), false)
    | .argument, none =>
      match next with
      | some a => .ok ((o.key, some a), true)
      | none => .error ("option '--" ++ o.long ++ "' requires an argument")
  | os =>
    .error ("option '--" ++ name ++ "' is ambiguous; possibilities:" ++
      String.join (os.map fun o => " '--" ++ o.long ++ "'"))

/-- The options and operands of some words. If `first`, the operands start at the first word that is
no option. -/
def wordsOf (forms : List OptionForm) (first : Bool) : Nat → List Bytes → Except String Words
  | 0, args => .ok ⟨[], args⟩
  | _ + 1, [] => .ok ⟨[], []⟩
  | fuel + 1, w :: rest =>
    match w with
    | ['-', '-'] => .ok ⟨[], rest⟩
    | '-' :: '-' :: name =>
      match long forms rest.head? name with
      | .error e => .error e
      | .ok (o, taken) =>
        (wordsOf forms first fuel (if taken then rest.drop 1 else rest)).map fun w =>
          { w with options := o :: w.options }
    | '-' :: c :: cs =>
      match cluster forms rest.head? (c :: cs) with
      | .error e => .error e
      | .ok (os, taken) =>
        (wordsOf forms first fuel (if taken then rest.drop 1 else rest)).map fun w =>
          { w with options := os ++ w.options }
    | w =>
      if first then .ok ⟨[], w :: rest⟩
      else
        (wordsOf forms first fuel rest).map fun ws => { ws with operands := w :: ws.operands }

/-! ## Input and output -/

/-- Writes some output of a program, which ends if that cannot be done. -/
def put (who : Bytes) (out : Bytes) : Act Unit := do
  if !out.isEmpty then
    match ← emit 1 out with
    | none => pure ()
    | some f =>
      complain who ("write error: " ++ f.reason)
      leaveShell 1

/-- Writes the output of a program and ends. -/
def output (who : Bytes) (out : Bytes) (status : Nat) : Act Unit := do
  put who out
  ends status

/-- Runs a program with its options, unless they are wrong; then it ends with a status. -/
def withWords (who : Bytes) (status : Nat) (forms : List OptionForm) (first : Bool)
    (args : List Bytes) (body : Words → Act Unit) : Act Unit := do
  let forms := forms ++ [longOnly "help" .nothing, longOnly "version" .nothing]
  match wordsOf forms first (args.length + 1) args with
  | .ok w =>
    if w.has "help" then
      output who ("Usage: ".toList ++ who ++ " [OPTION]... [FILE]...\n".toList) 0
    else if w.has "version" then output who (who ++ " (GNU coreutils) 9.4\n".toList) 0
    else body w
  | .error e => misused who status e

/-- Opens an operand to read it: a dash is the input. -/
def openOperand (name : Bytes) : Act (Except FileFault Nat) := do
  if name = ['-'] then
    match (← get).stream? 0 with
    | some stream => return .ok stream
    | none => return .error .badDescriptor
  else openToRead name

/-- All that is left of a stream. -/
def drain (stream : Nat) : Act (Except FileFault Bytes) := do
  let s ← get
  match s.machine.available stream with
  | .error f => return .error f
  | .ok bytes =>
    let machine := s.machine.consume stream bytes.length
    set { s with machine := { machine with
      asksTooMuch := machine.asksTooMuch || machine.isEndless stream } }
    return .ok bytes

/-- The content of a file, or of the input if the name is a dash. -/
def contentOf (name : Bytes) : Act (Except FileFault Bytes) := do
  match ← openOperand name with
  | .ok stream => drain stream
  | .error f => return .error f

/-- A status that tells whether something succeeded. -/
def statusOf (succeeded : Bool) : Nat := if succeeded then 0 else 1

/-- Goes over files, the input if there are none; tells whether all could be read. -/
def forContents (who : Bytes) (names : List Bytes) (body : Bytes → Bytes → Act Unit) : Act Bool := do
  let names := if names.isEmpty then [['-']] else names
  let read ← names.mapM fun n => do
    match ← contentOf n with
    | .ok bytes =>
      body n bytes
      return true
    | .error f =>
      complain who (named n ++ ": " ++ f.reason)
      return false
  return read.all id

/-- The contents of files, the input if there are none; and whether all could be read. -/
def contentsOf (who : Bytes) (names : List Bytes) : Act (List Bytes × Bool) := do
  let names := if names.isEmpty then [['-']] else names
  let contents ← names.mapM fun n => do
    match ← contentOf n with
    | .ok bytes => return some bytes
    | .error f =>
      complain who (named n ++ ": " ++ f.reason)
      return none
  return (contents.filterMap id, contents.all Option.isSome)

/-- The pieces of a text that a byte ends, without it or with it. -/
def pieces (ending : Char) (keeps : Bool) (t : Bytes) : List Bytes :=
  let step (p : List Bytes × Bytes) (c : Char) : List Bytes × Bytes :=
    if c = ending then ((if keeps then (c :: p.2).reverse else p.2.reverse) :: p.1, [])
    else (p.1, c :: p.2)
  let (ended, begun) := t.foldl step ([], [])
  (if begun.isEmpty then ended else begun.reverse :: ended).reverse

/-- The lines of a text, without their ends. -/
def linesOf (t : Bytes) : List Bytes := pieces '\n' false t

/-- The lines of a text with their ends. -/
def rawLines (t : Bytes) : List Bytes := pieces '\n' true t

/-- Lines as a text. -/
def unlines (lines : List Bytes) : Bytes := lines.flatMap (· ++ ['\n'])

/-- A number that digits are. -/
def number? (t : Bytes) : Option Nat :=
  if !t.isEmpty && t.all Char.isDigit then some (State.digitsNumber t) else none

/-- What the letters behind a number multiply it by. -/
def multiplier? (letters : Bytes) : Option Nat :=
  let powers := [('K', 1), ('M', 2), ('G', 3), ('T', 4), ('P', 5), ('E', 6)]
  match letters with
  | [] => some 1
  | ['b'] => some 512
  | c :: rest =>
    (powers.lookup (if c = 'k' then 'K' else c)).bind fun n =>
      match shown rest with
      | "" | "iB" => some (Nat.pow 1024 n)
      | "B" => some (Nat.pow 1000 n)
      | _ => none

/-- A number with letters that multiply it. -/
def size? (t : Bytes) : Option Nat :=
  let digits := t.takeWhile Char.isDigit
  if digits.isEmpty then none
  else (multiplier? (t.drop digits.length)).map (State.digitsNumber digits * ·)

/-- A text filled with blanks at its start. -/
def padLeft (width : Nat) (t : String) : String :=
  String.ofList (List.replicate (width - t.length) ' ') ++ t

/-- A number filled with blanks at its start. -/
def padNumber (width n : Nat) : Bytes := (padLeft width (toString n)).toList

/-- Complains that there are no words. -/
def missesOperand (who : Bytes) (status : Nat) : Act Unit := misused who status "missing operand"

/-- Complains that there are too many words. -/
def extraOperand (who : Bytes) (status : Nat) (w : Bytes) : Act Unit :=
  misused who status ("extra operand " ++ quotedText w)

end Tool

end Provision.Shell
