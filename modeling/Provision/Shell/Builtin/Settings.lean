import Provision.Shell.Builtin.Declaration

/-!
# Commands that change the shell

The switches of a shell, its positional parameters, the bits that new files do without, and the
reader of options.
-/

namespace Provision.Shell

/-! ## Switches -/

/-- The switches of a shell, in the order in which they are listed. -/
def optionNames : Dialect → List String
  | .bash =>
    ["allexport", "braceexpand", "emacs", "errexit", "errtrace", "functrace", "hashall",
      "histexpand", "history", "ignoreeof", "interactive-comments", "keyword", "monitor",
      "noclobber", "noexec", "noglob", "nolog", "notify", "nounset", "onecmd", "physical",
      "pipefail", "posix", "privileged", "verbose", "vi", "xtrace"]
  | .plain =>
    ["errexit", "noglob", "ignoreeof", "interactive", "monitor", "noexec", "stdin", "xtrace",
      "verbose", "vi", "emacs", "noclobber", "allexport", "notify", "nounset", "privileged",
      "nolog", "debug"]

/-- The switches that `set` knows by letters. -/
def switchLetters : Dialect → Bytes
  | .bash => "abefhkmnptuvxBCEHPT".toList
  | .plain => "aCefImnuvxVEbip".toList

/-- The switches of the second kind, in order. -/
def switchNames : List String :=
  ["autocd", "assoc_expand_once", "cdable_vars", "cdspell", "checkhash", "checkjobs",
    "checkwinsize", "cmdhist", "compat31", "compat32", "compat40", "compat41", "compat42",
    "compat43", "compat44", "complete_fullquote", "direxpand", "dirspell", "dotglob", "execfail",
    "expand_aliases", "extdebug", "extglob", "extquote", "failglob", "force_fignore",
    "globasciiranges", "globskipdots", "globstar", "gnu_errfmt", "histappend", "histreedit",
    "histverify", "hostcomplete", "huponexit", "inherit_errexit", "interactive_comments",
    "lastpipe", "lithist", "localvar_inherit", "localvar_unset", "login_shell", "mailwarn",
    "no_empty_cmd_completion", "nocaseglob", "nocasematch", "noexpand_translation", "nullglob",
    "patsub_replacement", "progcomp", "progcomp_alias", "promptvars", "restricted_shell",
    "shift_verbose", "sourcepath", "varredir_close", "xpg_echo"]

/-- Some switches with one on or off, in a fixed order. -/
def switched (all on : List String) (name : String) (isOn : Bool) : List String :=
  all.filter fun n => if n = name then isOn else on.contains n

/-- The state with a switch on or off. -/
def State.switch (s : State) (name : String) (on : Bool) : State :=
  let options := switched (optionNames s.dialect) s.options name on
  let options :=
    if on && name = "vi" then options.filter (· ≠ "emacs")
    else if on && name = "emacs" then options.filter (· ≠ "vi")
    else options
  { s with options }

/-- A text filled with blanks up to a width. -/
def filledTo (width : Nat) (t : String) : String :=
  t ++ String.ofList (List.replicate (width - t.length) ' ')

/-- Writes which switches are on. -/
def listOptions (asCommands : Bool) : Act Unit := do
  let s ← get
  let line (n : String) : String :=
    if asCommands then (if s.has n then "set -o " else "set +o ") ++ n ++ "\n"
    else
      let state := if s.has n then "on" else "off"
      match s.dialect with
      | .bash => filledTo 15 n ++ "\t" ++ state ++ "\n"
      | .plain => filledTo 16 n ++ state ++ "\n"
  let title := if s.dialect = .plain && !asCommands then "Current option settings\n" else ""
  let _ ← emit 1 (title ++ String.join ((optionNames s.dialect).map line)).toList
  ends 0

/-- How `set` is used. -/
def setForm : String := "set [-abefhkmnptuvxBCEHPT] [-o option-name] [--] [-] [arg ...]"

/-- A change of the settings. -/
inductive Change where
  | letter (on : Bool) (c : Char)
  | option (on : Bool) (name : Bytes)
  | list (asCommands : Bool)

/-- The changes that some words start with, and the positional parameters that follow, if they are
changed; or the letter that means nothing. -/
def changesOf (letters : Bytes) : List Bytes →
    Except Bytes (List Change × Option (List Bytes))
  | [] => .ok ([], none)
  | w :: rest =>
    match w with
    | ['-', '-'] => .ok ([], some rest)
    | ['-'] =>
      .ok ([.letter false 'x', .letter false 'v'], if rest.isEmpty then none else some rest)
    | sign :: c :: cs =>
      if sign = '-' || sign = '+' then
        let on := sign = '-'
        let cluster := c :: cs
        match cluster.find? fun c => c ≠ 'o' && !letters.contains c with
        | some c => .error [sign, c]
        | none =>
          let plain := (cluster.filter (· ≠ 'o')).map (Change.letter on)
          if cluster.contains 'o' then
            match rest with
            | [] => .ok (plain ++ [.list (!on)], none)
            | name :: rest =>
              (changesOf letters rest).map fun (changes, ps) =>
                (plain ++ .option on name :: changes, ps)
          else (changesOf letters rest).map fun (changes, ps) => (plain ++ changes, ps)
      else .ok ([], some (w :: rest))
    | _ => .ok ([], some (w :: rest))

/-- Makes a change; tells whether it could. -/
def makeChange (c : Change) : Act Bool := do
  let s ← get
  match c with
  | .letter on c =>
    match State.optionLetters.lookup c with
    | some name => set (s.switch name on)
    | none => pure ()
    return true
  | .option on name =>
    let n := shown name
    if (optionNames s.dialect).contains n then
      set (s.switch n on)
      return true
    else
      match s.dialect with
      | .bash => complain ("set: " ++ n ++ ": invalid option name")
      | .plain =>
        failSpecial 2 ("set: Illegal option " ++ (if on then "-o " else "+o ") ++ n)
      return false
  | .list asCommands =>
    listOptions asCommands
    return true

/-- Makes changes up to one that cannot be made. -/
def makeChanges : List Change → Act Bool
  | [] => pure true
  | c :: cs => do
    if ← makeChange c then makeChanges cs else return false

/-- Changes the switches and the positional parameters. -/
def setCommand (args : List Bytes) : Act Unit := do
  if args.isEmpty then listAll
  else
    let s ← get
    match changesOf (switchLetters s.dialect) args with
    | .error o =>
      match s.dialect with
      | .bash =>
        complain ("set: " ++ shown o ++ ": invalid option")
        usage "set" setForm
      | .plain => failSpecial 2 ("set: Illegal option " ++ shown o)
    | .ok (changes, positional) =>
      if ← makeChanges changes then
        match positional with
        | some ps => modify fun s => { s with positional := ps }
        | none => pure ()
        ends 0
      else ends 2

/-! ## Switches of the second kind -/

/-- How `shopt` is used. -/
def shoptForm : String := "shopt [-pqsu] [-o] [optname ...]"

/-- Shows or changes switches of the second kind, or of the first one. -/
def shopt (args : List Bytes) : Act Unit := do
  withOptions "shopt" shoptForm "pqsuo" "" args fun os names => do
    let s ← get
    let first := hasOption os 'o'
    let all := if first then optionNames .bash else switchNames
    let isOn (s : State) (n : String) : Bool := if first then s.has n else s.allows n
    let line (n : String) : String :=
      if hasOption os 'p' then
        (if first then (if isOn s n then "set -o " else "set +o ")
          else if isOn s n then "shopt -s " else "shopt -u ") ++ n ++ "\n"
      else filledTo 15 n ++ "\t" ++ (if isOn s n then "on" else "off") ++ "\n"
    let turnsOn := hasOption os 's'
    let turnsOff := hasOption os 'u'
    let refuse (n : String) : Act Unit :=
      complain ("shopt: " ++ n ++
        (if first then ": invalid option name" else ": invalid shell option name"))
    if turnsOn && turnsOff then
      fail 1 "shopt: cannot set and unset shell options simultaneously"
    else if names.isEmpty then
      let chosen := all.filter fun n =>
        if turnsOn then isOn s n else if turnsOff then !isOn s n else true
      if !hasOption os 'q' then
        let _ ← emit 1 (String.join (chosen.map line)).toList
      ends 0
    else if turnsOn || turnsOff then
      let oks ← (names.map shown).mapM fun n => do
        if !all.contains n then
          refuse n
          return first
        else
          modify fun s =>
            if first then s.switch n turnsOn
            else { s with switches := switched switchNames s.switches n turnsOn }
          return true
      ends (if oks.all id then 0 else 1)
    else
      let oks ← (names.map shown).mapM fun n => do
        if !all.contains n then
          refuse n
          return false
        else
          if !hasOption os 'q' then
            let _ ← emit 1 (line n).toList
          return isOn s n
      ends (if oks.all id then 0 else 1)

/-! ## The bits of new files -/

/-- The bits of some of user, group and others. -/
def whoBits (who : Bytes) (bits : Nat) : Nat :=
  who.foldl (fun n c =>
    n ||| (match c with
      | 'u' => bits * 64
      | 'g' => bits * 8
      | 'o' => bits
      | _ => bits * 73)) 0

/-- The bits of letters; or the first that is none. -/
def permissionBits : Bytes → Except Char Nat
  | [] => .ok 0
  | c :: rest => do
    let bit ←
      match c with
      | 'r' => .ok 4
      | 'w' => .ok 2
      | 'x' | 'X' => .ok 1
      | 's' | 't' => .ok 0
      | c => .error c
    return bit ||| (← permissionBits rest)

/-- A fault in a mode of letters. -/
inductive ModeFault where
  | operator (c : Char)
  | character (c : Char)

/-- The bits that are allowed after a mode of letters, between commas. -/
def symbolicMode (allowed : Nat) (clauses : List Bytes) : Except ModeFault Nat :=
  clauses.foldlM (fun allowed clause =>
    let who := clause.takeWhile ['u', 'g', 'o', 'a'].contains
    let who' := if who.isEmpty then ['a'] else who
    apply who' ((clause.drop who.length).length + 1) allowed (clause.drop who.length)) allowed
where
  /-- The bits after operators with letters. -/
  apply (who : Bytes) : Nat → Nat → Bytes → Except ModeFault Nat
    | 0, allowed, _ => .ok allowed
    | fuel + 1, allowed, cs =>
      match cs with
      | [] => .ok allowed
      | op :: rest =>
        if !(['+', '-', '='].contains op) then .error (.operator op)
        else
          let letters := rest.takeWhile fun c => !(['+', '-', '='].contains c)
          match permissionBits letters with
          | .error c => .error (.character c)
          | .ok bits =>
            let mask := whoBits who bits
            let allowed :=
              if op = '+' then allowed ||| mask
              else if op = '-' then allowed &&& (0o777 ^^^ mask)
              else (allowed &&& (0o777 ^^^ whoBits who 7)) ||| mask
            apply who fuel allowed (rest.drop letters.length)

/-- Digits in base eight. -/
def octalText (width n : Nat) : String :=
  let digits := String.ofList (Nat.toDigits 8 n)
  String.ofList (List.replicate (width - digits.length) '0') ++ digits

/-- The number that digits in base eight are. -/
def octalNumber? (t : Bytes) : Option Nat :=
  if !t.isEmpty && t.all fun c => '0' ≤ c && c ≤ '7' then
    some (t.foldl (fun n c => n * 8 + (c.toNat - 48)) 0)
  else none

/-- The pieces of a text between commas. -/
def betweenCommas (t : Bytes) : List Bytes :=
  ((shown t).splitOn ",").map String.toList

/-- The letters of the bits that are allowed. -/
def symbolicText (allowed : Nat) : String :=
  let letters (n : Nat) : String :=
    (if n &&& 4 ≠ 0 then "r" else "") ++ (if n &&& 2 ≠ 0 then "w" else "") ++
      (if n &&& 1 ≠ 0 then "x" else "")
  "u=" ++ letters (allowed / 64 % 8) ++ ",g=" ++ letters (allowed / 8 % 8) ++
    ",o=" ++ letters (allowed % 8)

/-- Shows or changes the bits that new files do without. -/
def umask (args : List Bytes) : Act Unit := do
  let plain := (← get).dialect = .plain
  withOptions "umask" "umask [-p] [-S] [mode]" (if plain then "S" else "pS") "" args
    fun os rest => do
      let s ← get
      match rest with
      | [] =>
        let text :=
          if hasOption os 'S' then symbolicText (0o777 ^^^ s.umask) else octalText 4 s.umask
        let before := if hasOption os 'p' then
          (if hasOption os 'S' then "umask -S " else "umask ") else ""
        let _ ← emit 1 (before ++ text ++ "\n").toList
        ends 0
      | mode :: _ =>
        let change (mask : Nat) : Act Unit := do
          modify fun s => { s with umask := mask }
          if hasOption os 'S' && !plain then
            let _ ← emit 1 (symbolicText (0o777 ^^^ mask) ++ "\n").toList
          ends 0
        if mode.head?.any Char.isDigit then
          match octalNumber? mode with
          | some n =>
            if n ≤ 0o7777 then change (n % 512)
            else fail 1 ("umask: " ++ shown mode ++ ": octal number out of range")
          | none =>
            if plain then fail 2 ("umask: Illegal number: " ++ shown mode)
            else fail 1 ("umask: " ++ shown mode ++ ": octal number out of range")
        else
          match symbolicMode (0o777 ^^^ s.umask) (betweenCommas mode) with
          | .ok allowed => change (0o777 ^^^ allowed)
          | .error f =>
            if plain then fail 2 ("umask: Illegal mode: " ++ shown mode)
            else
              match f with
              | .operator c =>
                fail 1 ("umask: \x60" ++ String.singleton c ++ "': invalid symbolic mode operator")
              | .character c =>
                fail 1 ("umask: \x60" ++ String.singleton c ++ "': invalid symbolic mode character")

/-! ## The reader of options -/

/-- How `getopts` is used. -/
def getoptsForm : String := "getopts optstring name [arg ...]"

/-- What the reader of options found. -/
structure FoundOption where
  /-- The option, or a mark for none, for an unknown one, or for one without its argument. -/
  letter : Char
  argument : Option Bytes
  /-- The number of the next word, and where in it the next option is. -/
  next : Nat
  cluster : Nat
  fault : Option String
  ended : Bool

/-- The next option of some words. -/
def nextOption (plain silent : Bool) (letters : Bytes) (args : List Bytes) (index cluster : Nat) :
    FoundOption :=
  let finished (next : Nat) : FoundOption := ⟨'?', none, next, 0, none, true⟩
  match args[index - 1]? with
  | none => finished (max index 1)
  | some w =>
    if cluster = 0 && w = ['-', '-'] then finished (index + 1)
    else if cluster = 0 && (w.head? ≠ some '-' || w.length < 2) then finished index
    else
      let at' := if cluster = 0 then 1 else cluster
      match w[at']? with
      | none => finished (index + 1)
      | some c =>
        let last := w.length ≤ at' + 1
        let (next, cluster) :=
          if last then (index + 1, 0)
          else (index, at' + 1)
        let after := letters.drop ((letters.takeWhile (· ≠ c)).length + 1)
        if c = ':' || !letters.contains c then
          let fault := if plain then "Illegal option -" else "illegal option -- "
          ⟨'?', if silent then some [c] else none, next, cluster,
            if silent then none else some (fault ++ String.singleton c), false⟩
        else if after.head? = some ':' then
          if !last then ⟨c, some (w.drop (at' + 1)), index + 1, 0, none, false⟩
          else
            match args[index]? with
            | some a => ⟨c, some a, index + 2, 0, none, false⟩
            | none =>
              if silent then ⟨':', some [c], index + 1, 0, none, false⟩
              else
                let fault :=
                  if plain then "No arg for -" ++ String.singleton c ++ " option"
                  else "option requires an argument -- " ++ String.singleton c
                ⟨'?', none, index + 1, 0, some fault, false⟩
        else ⟨c, none, next, cluster, none, false⟩

/-- Reads the next option into a variable. -/
def getopts (args : List Bytes) : Act Unit := do
  let s ← get
  let plain := s.dialect = .plain
  let refuse : Act Unit :=
    if plain then fail 2 "getopts: Usage: getopts optstring var [arg...]"
    else usage "getopts" getoptsForm
  withOptions "getopts" getoptsForm "" "" args fun _ rest => do
    match rest with
    | letters :: name :: words =>
      if !isName name then
        if plain then fail 2 ("getopts: " ++ shown name ++ ": bad variable name")
        else
          refuseName "getopts" name
          ends 1
        return
      let silent := letters.head? = some ':'
      let quiet := s.textOf "OPTERR" = ['0'] && !plain
      let index := ((wordNumber? (s.textOf "OPTIND")).map Int.toNat).getD 1
      let index := if plain && s.clusterAt ≠ 0 then index - 1 else index
      let words := if words.isEmpty then s.positional else words
      let f := nextOption plain silent (if silent then letters.drop 1 else letters) words
        (max index 1) s.clusterAt
      match f.fault with
      | some text =>
        if plain then sayLine text
        else if !quiet then sayLine (shown s.name ++ ": " ++ text)
      | none => pure ()
      modify fun s =>
        let counted := if plain && f.cluster ≠ 0 then f.next + 1 else f.next
        let s := s.setText "OPTIND".toList (toString counted).toList
        let s :=
          match f.argument with
          | some a => s.setText "OPTARG".toList a
          | none => if plain then s.setText "OPTARG".toList [] else s.remove "OPTARG".toList
        { s with clusterAt := f.cluster }
      if (← get).isReadOnly name then
        complain (shown name ++ ": readonly variable")
        ends 2
      else
        modify fun s => s.setText name [f.letter]
        ends (if f.ended then 1 else 0)
    | _ => refuse

/-! ## Limits -/

/-- Shows a limit, of which there is none; or takes note of one. -/
def ulimit (args : List Bytes) : Act Unit := do
  withOptions "ulimit" "ulimit [-SHabcdefiklmnpqrstuvxPRT] [limit]" "SHabcdefiklmnpqrstuvxPRT" ""
    args fun os rest => do
      match rest with
      | [] =>
        let text :=
          if hasOption os 'n' then "1048576"
          else if hasOption os 'c' then "0"
          else if hasOption os 's' then "8192"
          else "unlimited"
        let _ ← emit 1 (text ++ "\n").toList
        ends 0
      | limit :: _ =>
        if (wordNumber? limit).isSome || ["unlimited", "hard", "soft"].contains (shown limit) then
          ends 0
        else if (← get).dialect = .plain then fail 2 "ulimit: bad number"
        else fail 1 ("ulimit: " ++ shown limit ++ ": invalid number")

end Provision.Shell
