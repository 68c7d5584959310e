import Provision.Shell.State

/-!
# Options of the commands of the shell

The options that a command of the shell is given, and what it says about those that it does not know.
-/

namespace Provision.Shell

/-- What is wrong with options. -/
inductive OptionFault where
  | unknown (option : Bytes)
  | withoutArgument (letter : Char)
  deriving Repr

/-- Options with their arguments, and what follows them. -/
abbrev Given := List (Char × Bytes) × List Bytes

/-- The options of a cluster of letters; those of `valued` take the rest of it, or the next word. -/
def clusterOptions (plain valued : List Char) : Bytes → List Bytes →
    Except OptionFault Given
  | [], rest => .ok ([], rest)
  | c :: cs, rest =>
    if valued.contains c then
      match cs, rest with
      | [], a :: rest => .ok ([(c, a)], rest)
      | [], [] => .error (.withoutArgument c)
      | cs, rest => .ok ([(c, cs)], rest)
    else if plain.contains c then
      (clusterOptions plain valued cs rest).map fun (os, rest) => ((c, []) :: os, rest)
    else .error (.unknown ['-', c])

/-- The options that some words start with, up to a word that is none. -/
def optionsOf (plain valued : List Char) : Nat → List Bytes → Except OptionFault Given
  | 0, args => .ok ([], args)
  | fuel + 1, args =>
    match args with
    | ['-', '-'] :: rest => .ok ([], rest)
    | ('-' :: c :: cs) :: rest =>
      match clusterOptions plain valued (c :: cs) rest with
      | .error f => .error f
      | .ok (os, rest) =>
        (optionsOf plain valued fuel rest).map fun (more, rest) => (os ++ more, rest)
    | args => .ok ([], args)

/-- Writes how a command is used, and ends. -/
def usage (name form : String) : Act Unit := do
  sayLine (name ++ ": usage: " ++ form)
  ends 2

/-- The commands of the plain shell whose faults end it. -/
def specialCommands : List String :=
  [".", ":", "break", "continue", "eval", "exec", "exit", "export", "readonly", "return", "set",
    "shift", "times", "trap", "unset"]

/-- A command of the plain shell failed, which may end the shell. -/
def failPlain (name text : String) : Act Unit := do
  complain (name ++ ": " ++ text)
  if specialCommands.contains name then leaveShell 2 else ends 2

/-- Says what is wrong with options of a command that is used in some form. -/
def refuseOptions (name form : String) (f : OptionFault) : Act Unit := do
  match (← get).dialect, f with
  | .bash, .unknown o =>
    complain (name ++ ": " ++ shown o ++ ": invalid option")
    usage name form
  | .bash, .withoutArgument c =>
    complain (name ++ ": -" ++ String.singleton c ++ ": option requires an argument")
    usage name form
  | .plain, .unknown o => failPlain name ("Illegal option " ++ shown o)
  | .plain, .withoutArgument c =>
    failPlain name ("No arg for -" ++ String.singleton c ++ " option")

/-- Runs a command with its options. -/
def withOptions (name form : String) (plain valued : String) (args : List Bytes)
    (body : List (Char × Bytes) → List Bytes → Act Unit) : Act Unit := do
  match optionsOf plain.toList valued.toList (args.length + 1) args with
  | .ok (os, rest) => body os rest
  | .error f => refuseOptions name form f

/-- Whether an option was given. -/
def hasOption (os : List (Char × Bytes)) (c : Char) : Bool := os.any (·.1 = c)

/-- The argument of an option that was given last. -/
def optionValue (os : List (Char × Bytes)) (c : Char) : Option Bytes :=
  (os.reverse.find? (·.1 = c)).map Prod.snd

/-- The integer that a word is, in base ten. -/
def wordNumber? (cs : Bytes) : Option Int :=
  let isBlank (c : Char) : Bool := c = ' ' || ('\t' ≤ c && c ≤ '\r')
  let cs := ((cs.dropWhile isBlank).reverse.dropWhile isBlank).reverse
  let (negative, ds) :=
    match cs with
    | '-' :: rest => (true, rest)
    | '+' :: rest => (false, rest)
    | _ => (false, cs)
  if ds.isEmpty || !ds.all Char.isDigit then none
  else
    let n : Int := State.digitsNumber ds
    some (if negative then -n else n)

/-- The command is given a name that is none. -/
def refuseName (command : String) (name : Bytes) : Act Unit :=
  complain (command ++ ": \x60" ++ shown name ++ "': not a valid identifier")

end Provision.Shell
