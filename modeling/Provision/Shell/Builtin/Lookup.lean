import Provision.Shell.Builtin.Signal

/-!
# Looking commands up

What the name of a command leads to: an alias, a word of the grammar, a function, a command of the
shell, or a program that is found in one of some directories.
-/

namespace Provision.Shell

/-- The commands of a shell. -/
def builtinNames : Dialect → List String
  | .bash =>
    [".", ":", "[", "alias", "bg", "bind", "break", "builtin", "caller", "cd", "command", "compgen",
      "complete", "compopt", "continue", "declare", "dirs", "disown", "echo", "enable", "eval",
      "exec", "exit", "export", "false", "fc", "fg", "getopts", "hash", "help", "history", "jobs",
      "kill", "let", "local", "logout", "mapfile", "popd", "printf", "pushd", "pwd", "read",
      "readarray", "readonly", "return", "set", "shift", "shopt", "source", "suspend", "test",
      "times", "trap", "true", "type", "typeset", "ulimit", "umask", "unalias", "unset", "wait"]
  | .plain =>
    [".", ":", "[", "alias", "bg", "break", "cd", "chdir", "command", "continue", "echo", "eval",
      "exec", "exit", "export", "false", "fg", "getopts", "hash", "jobs", "kill", "local", "printf",
      "pwd", "read", "readonly", "return", "set", "shift", "test", "times", "trap", "true", "type",
      "ulimit", "umask", "unalias", "unset", "wait"]

/-- The words of the grammar that `type` knows. -/
def keywords : Dialect → List String
  | .bash =>
    ["if", "then", "else", "elif", "fi", "case", "esac", "for", "select", "while", "until", "do",
      "done", "in", "function", "time", "\x7b", "\x7d", "!", "[[", "]]", "coproc"]
  | .plain =>
    ["!", "\x7b", "\x7d", "case", "do", "done", "elif", "else", "esac", "fi", "for", "if", "in",
      "then", "until", "while"]

/-- Whether a name is that of a command of the shell. -/
def State.isBuiltin (s : State) (name : Bytes) : Bool :=
  (builtinNames s.dialect).contains (shown name)

/-! ## Programs -/

/-- Whether a path leads to something that can be run. -/
def State.isRunnable (s : State) (path : Bytes) : Bool :=
  match s.find path with
  | .ok (.file (.program _)) => true
  | .ok (.file (.regular n)) => (s.machine.nodes[n]?).any fun n => n.mode &&& 0o111 ≠ 0
  | _ => false

/-- The directories in which programs are looked for. -/
def State.searchPath (s : State) : List Bytes :=
  ((shown (s.textOf "PATH")).splitOn ":").map String.toList

/-- The paths of the programs of a name, in the order of the directories. -/
def State.programs (s : State) (name : Bytes) : List Bytes :=
  if name.contains '/' then (if s.isRunnable name then [name] else [])
  else
    (s.searchPath.map fun dir => if dir.isEmpty then "./".toList ++ name else dir ++ '/' :: name).filter
      s.isRunnable

/-- The path of the program of a name: where it was found before, or where it is found first. -/
def State.program? (s : State) (name : Bytes) : Option Bytes :=
  match s.hashed.lookup name with
  | some (path, _) => some path
  | none => (s.programs name).head?

/-- The state that remembers where a program was found, one time more. -/
def State.remembers (s : State) (name path : Bytes) (hits : Nat) : State :=
  if name.contains '/' then s
  else
    match s.hashed.lookup name with
    | some (path, n) =>
      { s with hashed := s.hashed.map fun e => if e.1 = name then (name, path, n + hits) else e }
    | none => { s with hashed := s.hashed ++ [(name, path, hits)] }

/-- The state that forgets where a program was found. -/
def State.forgets (s : State) (name : Bytes) : State :=
  { s with hashed := s.hashed.filter fun e => e.1 ≠ name }

/-! ## Kinds -/

/-- What a name leads to. -/
inductive Kind where
  | aliased (value : Bytes)
  | keyword
  | function (f : Function)
  | builtin
  | program (path : Bytes)

/-- All that a name leads to, in the order in which it is tried. -/
def State.kinds (s : State) (name : Bytes) : List Kind :=
  let aliases :=
    if s.dialect = .plain || s.allows "expand_aliases" then
      (s.aliases.lookup name).toList.map Kind.aliased
    else []
  let words := if (keywords s.dialect).contains (shown name) then [Kind.keyword] else []
  let functions := (s.functions.lookup name).toList.map Kind.function
  let builtins := if s.isBuiltin name then [Kind.builtin] else []
  aliases ++ words ++ functions ++ builtins ++ (s.programs name).map Kind.program

/-- What `command -v` writes about a name. -/
def Kind.short (name : Bytes) : Kind → Bytes
  | aliased value => "alias ".toList ++ name ++ '=' :: Quoting.plainSingle value
  | program path => path
  | _ => name

/-- What `type` writes about a name. -/
def Kind.long (s : State) (name : Bytes) (k : Kind) : Bytes :=
  let plain := s.dialect = .plain
  name ++
    match k with
    | aliased value =>
      if plain then " is an alias for ".toList ++ value
      else " is aliased to \x60".toList ++ value ++ ['\'']
    | keyword => " is a shell keyword".toList
    | function f =>
      if plain then " is a shell function".toList
      else " is a function\n".toList ++ (Listing.function name f.body).dropLast
    | builtin =>
      if plain && (specialCommands.contains (shown name) || name = "local".toList) then
        " is a special shell builtin".toList
      else " is a shell builtin".toList
    | program path =>
      match s.hashed.lookup name with
      | some (hashed, _) =>
        if plain then " is a tracked alias for ".toList ++ hashed
        else " is hashed (".toList ++ hashed ++ [')']
      | none => " is ".toList ++ path

/-- The word for a kind. -/
def Kind.word : Kind → String
  | aliased _ => "alias"
  | keyword => "keyword"
  | function _ => "function"
  | builtin => "builtin"
  | program _ => "file"

/-- Writes a line. -/
def writeLine (line : Bytes) : Act Unit := do
  let _ ← emit 1 (line ++ ['\n'])

/-- Says what names lead to, in the plain shell; tells whether all lead to something. -/
def describePlain (names : List Bytes) : Act Bool := do
  let oks ← names.mapM fun n => do
    let s ← get
    let kind? : Option Kind :=
      match s.kinds n with
      | k :: _ => some k
      | [] => if n.contains '/' && (s.find n).toOption.isSome then some (.program n) else none
    match kind? with
    | some k =>
      writeLine (k.long s n)
      match k with
      | .program path => modify fun s => s.remembers n path 0
      | _ => pure ()
      return true
    | none =>
      writeLine (n ++ ": not found".toList)
      return false
  return oks.all id

/-- Says what names lead to; tells how many lead to something. -/
def describe (command : String) (names : List Bytes) : Act Nat := do
  let found ← names.mapM fun n => do
    let s ← get
    match s.kinds n with
    | k :: _ =>
      writeLine (k.long s n)
      return 1
    | [] =>
      complain (command ++ ": " ++ shown n ++ ": not found")
      return 0
  return found.foldl (· + ·) 0

/-- Says what names lead to. -/
def type (args : List Bytes) : Act Unit := do
  match (← get).dialect with
  | .plain => ends (if ← describePlain args then 0 else 127)
  | .bash =>
    withOptions "type" "type [-afptP] name [name ...]" "afptP" "" args fun os names => do
      let has (c : Char) : Bool := hasOption os c
      let found ← names.mapM fun n => do
        let s ← get
        let kinds := (s.kinds n).filter fun k =>
          match k with
          | .function _ => !has 'f'
          | _ => true
        let kinds :=
          if has 'P' || has 'p' && has 'a' then
            kinds.filter fun k =>
              match k with
              | .program _ => true
              | _ => false
          else kinds
        let chosen := if has 'a' then kinds else kinds.take 1
        chosen.forM fun k =>
          if has 't' then writeLine k.word.toList
          else if has 'p' || has 'P' then
            match k with
            | .program path => writeLine (((s.hashed.lookup n).map Prod.fst).getD path)
            | _ => pure ()
          else if has 'a' then writeLine (k.long { s with hashed := [] } n)
          else writeLine (k.long s n)
        if chosen.isEmpty && !has 't' && !has 'p' && !has 'P' then
          complain ("type: " ++ shown n ++ ": not found")
        return !chosen.isEmpty
      ends (if found.all id then 0 else 1)

/-- Tells what `command` is asked about names. -/
def lookUp (long : Bool) (names : List Bytes) : Act Unit := do
  match (← get).dialect with
  | .plain =>
    let names := names.take 1
    if long then ends (if ← describePlain names then 0 else 127)
    else
      let s ← get
      let found := names.filterMap fun n =>
        match s.kinds n with
        | k :: _ => some (k.short n)
        | [] => if n.contains '/' && (s.find n).toOption.isSome then some n else none
      found.forM writeLine
      ends (if found.length = names.length then 0 else 127)
  | .bash =>
    if long then
      let n ← describe "command" names
      ends (if n = 0 && !names.isEmpty then 1 else 0)
    else
      let s ← get
      let found := names.filterMap fun n => (s.kinds n).head?.map fun k => k.short n
      found.forM writeLine
      ends (if found.isEmpty && !names.isEmpty then 1 else 0)

/-! ## Remembered programs -/

/-- Shows or changes where programs are remembered to be. -/
def hash (args : List Bytes) : Act Unit := do
  let plain := (← get).dialect = .plain
  withOptions "hash" "hash [-lr] [-p pathname] [-dt] [name ...]" (if plain then "rv" else "lrdt")
    (if plain then "" else "p") args fun os names => do
      let s ← get
      if hasOption os 'r' then set { s with hashed := [] }
      match optionValue os 'p', names with
      | some path, names@(_ :: _) =>
        names.forM fun n => modify fun s =>
          (s.forgets n).remembers n path 0
        ends 0
      | _, [] =>
        if hasOption os 'r' then ends 0
        else if plain then
          s.hashed.forM fun e => writeLine e.2.1
          ends 0
        else if s.hashed.isEmpty then
          writeLine "hash: hash table empty".toList
          ends 0
        else
          if hasOption os 'l' then
            s.hashed.forM fun (n, path, _) =>
              writeLine ("builtin hash -p ".toList ++ path ++ ' ' :: n)
          else
            writeLine "hits\tcommand".toList
            s.hashed.forM fun (_, path, hits) =>
              let count := toString hits
              writeLine ((String.ofList (List.replicate (4 - count.length) ' ') ++ count ++
                "\t").toList ++ path)
          ends 0
      | _, names =>
        let oks ← names.mapM fun n => do
          let s ← get
          let missing : Act Bool := do
            complain ("hash: " ++ shown n ++ ": not found")
            return false
          if hasOption os 't' then
            match s.hashed.lookup n with
            | some (path, _) =>
              writeLine (if names.length > 1 then n ++ '\t' :: path else path)
              return true
            | none => missing
          else if hasOption os 'd' then
            if (s.hashed.lookup n).isNone then missing
            else
              set (s.forgets n)
              return true
          else if s.isBuiltin n || (s.functions.lookup n).isSome then return true
          else
            match (s.programs n).head? with
            | some path =>
              if !n.contains '/' then
                set ((s.forgets n).remembers n path 0)
              return true
            | none => missing
        ends (if oks.all id then 0 else 1)

/-! ## Aliases -/

/-- An alias as it is listed. -/
def aliasListing (d : Dialect) (name value : Bytes) : Bytes :=
  match d with
  | .bash => "alias ".toList ++ name ++ '=' :: Quoting.single value
  | .plain => name ++ '=' :: Quoting.plainSingle value

/-- The aliases as they are listed. -/
def State.listedAliases (s : State) : List (Bytes × Bytes) :=
  match s.dialect with
  | .bash => s.aliases.mergeSort fun a b => !(b.1 < a.1)
  | .plain => s.aliases

/-- Sets or shows aliases. -/
def setAliases (args : List Bytes) : Act Unit := do
  let plain := (← get).dialect = .plain
  let body (all : Bool) (names : List Bytes) : Act Unit := do
    let s ← get
    if all || names.isEmpty then
      s.listedAliases.forM fun (n, v) => writeLine (aliasListing s.dialect n v)
    let oks ← names.mapM fun w => do
      let s ← get
      let name := w.takeWhile (· ≠ '=')
      if w.contains '=' && !name.isEmpty then
        let value := w.drop (name.length + 1)
        if !plain && name.any fun c => Quoting.isMeta c || c = '/' then
          complain ("alias: \x60" ++ shown name ++ "': invalid alias name")
          return false
        let others := s.aliases.filter (·.1 ≠ name)
        set { s with aliases := (name, value) :: others }
        return true
      else
        match s.aliases.lookup w with
        | some v =>
          writeLine (aliasListing s.dialect w v)
          return true
        | none =>
          if plain then sayLine ("alias: " ++ shown w ++ " not found")
          else complain ("alias: " ++ shown w ++ ": not found")
          return false
    ends (if oks.all id then 0 else 1)
  if plain then body false args
  else
    withOptions "alias" "alias [-p] [name[=value] ... ]" "p" "" args fun os names =>
      body (hasOption os 'p') names

/-- Removes aliases. -/
def unalias (args : List Bytes) : Act Unit := do
  let plain := (← get).dialect = .plain
  withOptions "unalias" "unalias [-a] name [name ...]" "a" "" args fun os names => do
    let s ← get
    if hasOption os 'a' then
      set { s with aliases := [] }
      ends 0
    else if names.isEmpty then
      if plain then ends 0 else usage "unalias" "unalias [-a] name [name ...]"
    else
      let oks ← names.mapM fun n => do
        let s ← get
        if (s.aliases.lookup n).isSome then
          set { s with aliases := s.aliases.filter (·.1 ≠ n) }
          return true
        else
          if plain then sayLine ("unalias: " ++ shown n ++ " not found")
          else complain ("unalias: " ++ shown n ++ ": not found")
          return false
      ends (if oks.all id then 0 else 1)

/-! ## Commands of the shell -/

/-- Shows which commands of the shell can be used. -/
def enable (args : List Bytes) : Act Unit := do
  withOptions "enable" "enable [-a] [-dnps] [-f filename] [name ...]" "adnps" "f" args
    fun os names => do
      if names.isEmpty then
        let special (n : String) : Bool := specialCommands.contains n || n = "source"
        let chosen := (builtinNames .bash).filter fun n =>
          if hasOption os 'n' then false else if hasOption os 's' then special n else true
        chosen.forM fun n => writeLine ("enable " ++ n).toList
        ends 0
      else
        let oks ← names.mapM fun n => do
          if (← get).isBuiltin n then return true
          complain ("enable: " ++ shown n ++ ": not a shell builtin")
          return false
        ends (if oks.all id then 0 else 1)

/-- Tells where a function was called. -/
def caller (args : List Bytes) : Act Unit := do
  let s ← get
  match args with
  | [] =>
    match s.calls with
    | [] => ends 1
    | c :: rest =>
      let origin := ((rest.head?.map Call.origin).getD "NULL".toList)
      writeLine ((toString c.line).toList ++ ' ' :: origin)
      ends 0
  | w :: _ =>
    match wordNumber? w with
    | none =>
      complain ("caller: " ++ shown w ++ ": invalid number")
      usage "caller" "caller [expr]"
    | some n =>
      match s.calls[n.toNat]?, s.calls[n.toNat + 1]? with
      | some c, some outer =>
        writeLine ((toString c.line).toList ++ ' ' :: outer.name ++ ' ' :: outer.origin)
        ends 0
      | _, _ => ends 1

end Provision.Shell
