import Provision.Shell.Builtin.Options
import Provision.Shell.Expansion
import Provision.Shell.Listing

/-!
# Commands that declare

Commands that make variables, tell what is special about them, and remove them: `declare` and its
kin, `local`, `export`, `readonly` and `unset`.
-/

namespace Provision.Shell

/-- What a command that declares is given. -/
inductive Declared where
  | word (t : Bytes)
  | text (raw name : Bytes) (index : Option Bytes) (append : Bool) (value : Bytes)
  | list (raw name : Bytes) (append : Bool) (elements : List Element)

namespace Declared

/-- What is given, as it was written. -/
def raw : Declared → Bytes
  | word t => t
  | text raw _ _ _ _ => raw
  | list raw _ _ _ => raw

/-- The index that a text starts with, and the rest. -/
def indexAhead : Nat → Bytes → Bytes → Option (Bytes × Bytes)
  | _, _, [] => none
  | depth, taken, c :: rest =>
    if c = ']' then
      match depth with
      | 0 => some (taken.reverse, rest)
      | depth + 1 => indexAhead depth (c :: taken) rest
    else indexAhead (if c = '[' then depth + 1 else depth) (c :: taken) rest

/-- A word that may be an assignment. -/
def ofWord (t : Bytes) : Declared :=
  let name := t.takeWhile isNameChar
  let rest := t.drop name.length
  let (index, rest) :=
    match rest with
    | '[' :: more =>
      match indexAhead 0 [] more with
      | some (i, rest) => (some i, rest)
      | none => (none, rest)
    | _ => (none, rest)
  if !isName name then word t
  else
    match rest with
    | '=' :: value => text t name index false value
    | '+' :: '=' :: value => text t name index true value
    | _ => word t

/-- The name of the variable. -/
def name : Declared → Bytes
  | word t => (Calculation.nameParts t).1
  | text _ n _ _ _ => n
  | list _ n _ _ => n

end Declared

/-- The attributes with one more, or one less. -/
def Attributes.set (a : Attributes) (on : Bool) (c : Char) : Attributes :=
  match c with
  | 'x' => { a with exported := on }
  | 'r' => { a with readOnly := on }
  | 'i' => { a with integer := on }
  | 'n' => { a with reference := on }
  | 't' => { a with traced := on }
  | 'l' => { a with lower := on, upper := a.upper && !on, capital := a.capital && !on }
  | 'u' => { a with upper := on, lower := a.lower && !on, capital := a.capital && !on }
  | 'c' => { a with capital := on, upper := a.upper && !on, lower := a.lower && !on }
  | _ => a

/-- Whether the attributes have one. -/
def Attributes.has (a : Attributes) (c : Char) : Bool :=
  match c with
  | 'x' => a.exported
  | 'r' => a.readOnly
  | 'i' => a.integer
  | 'n' => a.reference
  | 't' => a.traced
  | 'l' => a.lower
  | 'u' => a.upper
  | 'c' => a.capital
  | _ => false

/-! ## What is declared -/

/-- How a variable is declared: with which letters on and off, and in which scope. -/
structure Declaring where
  command : String
  on : List Char
  off : List Char
  /-- Whether it belongs to the function that is being run. -/
  isLocal : Bool
  /-- Whether it belongs to no function. -/
  isGlobal : Bool

/-- The letters of a command that declares, and what follows them; or the word with one that it does
not know. -/
def mannerLetters (known : List Char) : List Declared → List Char → List Char →
    Except Bytes (List Char × List Char × List Declared)
  | [], on, off => .ok (on, off, [])
  | d :: rest, on, off =>
    match d with
    | .word ['-', '-'] => .ok (on, off, rest)
    | .word (sign :: c :: cs) =>
      if sign = '-' || sign = '+' then
        match (c :: cs).find? fun c => !known.contains c with
        | some c => .error [sign, c]
        | none =>
          if sign = '-' then mannerLetters known rest (on ++ c :: cs) off
          else mannerLetters known rest on (off ++ c :: cs)
      else .ok (on, off, d :: rest)
    | d => .ok (on, off, d :: rest)

/-- How commands that declare are used. -/
def declarationForm : String → String
  | "local" => "local [option] name[=value] ..."
  | "export" => "export [-fn] [name[=value] ...] or export -p"
  | "readonly" => "readonly [-aAf] [name[=value] ...] or readonly -p"
  | "typeset" =>
    "typeset [-aAfFgiIlnrtux] name[=value] ... or typeset -p [-aAfFilnrtux] [name ...]"
  | name =>
    name ++ " [-aAfFgiIlnrtux] [name[=value] ...] or declare -p [-aAfFilnrtux] [name ...]"

/-- The kind of list that a variable becomes; none after a diagnostic. -/
def asList (m : Declaring) (name : Bytes) (wantsKeys wantsNumbers : Bool) (v : Variable) :
    Act (Option Variable) := do
  let a := v.attributes
  match v.value with
  | .unset =>
    if wantsKeys then return some ⟨.keyed [], { a with bare := true }⟩
    else if wantsNumbers then return some ⟨.indexed [], { a with bare := true }⟩
    else return some v
  | .text t =>
    if wantsKeys then return some ⟨.keyed [(['0'], t)], a⟩
    else if wantsNumbers then return some ⟨.indexed [(0, t)], a⟩
    else return some v
  | .indexed _ =>
    if wantsKeys then
      complain (m.command ++ ": " ++ shown name ++
        ": cannot convert indexed to associative array")
      return none
    else if m.off.contains 'a' then
      complain (m.command ++ ": " ++ shown name ++ ": cannot destroy array variables in this way")
      return none
    else return some v
  | .keyed _ =>
    if m.on.contains 'a' then
      complain (m.command ++ ": " ++ shown name ++
        ": cannot convert associative to indexed array")
      return none
    else if m.off.contains 'A' then
      complain (m.command ++ ": " ++ shown name ++ ": cannot destroy array variables in this way")
      return none
    else return some v

/-- The state with a variable in the scope of a declaration. -/
def Declaring.put (m : Declaring) (s : State) (name : Bytes) (v : Variable) : State :=
  if m.isLocal then { s with frames := putLocal s.locals s.frames name v }
  else { s with frames := putIn s.frames name v }

/-- The variable of a name in the scope of a declaration. -/
def Declaring.find? (m : Declaring) (s : State) (name : Bytes) : Option Variable :=
  if m.isLocal then findLocal s.locals s.frames name else findIn s.frames name

/-- A reference takes on the name that it refers to; tells whether it did. -/
def refer (m : Declaring) (name t : Bytes) (a : Attributes) : Act Bool := do
  if t = name then
    complain (m.command ++ ": " ++ shown name ++ ": nameref variable self references not allowed")
    return false
  else if !t.isEmpty && !isName (Calculation.nameParts t).1 then
    complain (m.command ++ ": \x60" ++ shown t ++ "': invalid variable name for name reference")
    return false
  else
    modify fun s => m.put s name ⟨.text t, a⟩
    return true

/-- The attributes of a declaration, but for the one that forbids all changes. -/
def Declaring.attributes (m : Declaring) (a : Attributes) : Attributes :=
  let both := m.on.contains 'l' && m.on.contains 'u'
  let on := (m.on.filter fun c => c ≠ 'r' && !(both && (c = 'l' || c = 'u'))).foldl
    (fun a c => a.set true c) a
  m.off.foldl (fun a c => a.set false c) on

/-- Declares a variable; tells whether it was. -/
def declareOne (m : Declaring) (d : Declared) : Act Bool := do
  let name := d.name
  if !isName name then
    refuseName m.command d.raw
    return false
  let s ← get
  let name := if m.on.contains 'n' || m.off.contains 'n' || m.isLocal then name else s.target name
  let old := m.find? s name
  let outer := findIn s.frames name
  let who := m.command ++ ": "
  if m.isLocal && old.isNone && outer.any (·.attributes.readOnly) then
    complain (who ++ shown name ++ ": readonly variable")
    return false
  let changes : Bool :=
    match d with
    | .word _ => m.off.contains 'r'
    | .list _ _ _ _ => false
    | .text _ _ _ _ _ => true
  if changes && old.any (·.attributes.readOnly) then
    complain (who ++ shown name ++ ": readonly variable")
    return false
  let inherited := m.isLocal && m.on.contains 'I'
  let start := (old.or (if inherited then outer else none)).getD ⟨.unset, .none⟩
  let isIndexed : Bool :=
    match d with
    | .word t => (Calculation.nameParts t).2.isSome
    | .text _ _ index _ _ => index.isSome
    | .list _ _ _ _ => true
  match ← asList m name (m.on.contains 'A') (m.on.contains 'a' || isIndexed) start with
  | none => return false
  | some v =>
    let exported := s.has "allexport" && old.isNone
    let a := m.attributes { v.attributes with exported := v.attributes.exported || exported }
    let ok ←
      if a.reference && m.on.contains 'n' then
        match d with
        | .text _ _ _ _ t => refer m name t a
        | _ =>
          match v.value with
          | .text t => refer m name t a
          | _ =>
            modify fun s => m.put s name ⟨v.value, a⟩
            pure true
      else
        modify fun s => m.put s name ⟨v.value, a⟩
        match d with
        | .word _ => pure true
        | .text _ _ index append t => assign who name index append t
        | .list _ _ append elements =>
          let ok ← assignList who name append elements
          if !ok then leaveLine 1
          pure ok
    if ok && m.on.contains 'r' then
      modify fun s =>
        match m.find? s name with
        | some v => m.put s name ⟨v.value, { v.attributes with readOnly := true }⟩
        | none => s
    return ok

/-- Declares something where no function has variables of its own. -/
def globally (a : Act α) : Act α := do
  let s ← get
  let upper := s.frames.dropLast
  set { s with frames := s.frames.drop upper.length, locals := 0 }
  let r ← a
  modify fun t => { t with frames := upper ++ t.frames, locals := s.locals }
  return r

/-- Declares one after the other; tells whether all were. -/
def declareEach (m : Declaring) (ds : List Declared) : Act Bool := do
  let oks ← ds.mapM fun d => if m.isGlobal then globally (declareOne m d) else declareOne m d
  return oks.all id

/-! ## Listings -/

/-- Whether a variable is of a kind that letters tell. -/
def Variable.isOf (letters : List Char) (v : Variable) : Bool :=
  letters.all fun c =>
    match c, v.value with
    | 'a', .indexed _ | 'A', .keyed _ => true
    | 'a', _ | 'A', _ => false
    | c, _ => v.attributes.has c

/-- A variable as `set` lists it. -/
def Variable.listing (name : Bytes) (v : Variable) : Bytes :=
  match v.value with
  | .unset => []
  | .text t => name ++ '=' :: Quoting.listed t ++ ['\n']
  | .indexed [] | .keyed [] => name ++ "=()\n".toList
  | _ => name ++ '=' :: v.value.declaration ++ ['\n']

/-- All variables in order, with those that are made when they are looked up. -/
def State.variables (s : State) : List (Bytes × Variable) :=
  let made := ["IFS", "PPID", "UID", "EUID", "BASHOPTS", "SHELLOPTS", "DIRSTACK", "GROUPS"]
  let more : Frame := made.filterMap fun n =>
    let name := n.toList
    match s.dialect, findIn s.frames name, s.special? name with
    | .bash, none, some v =>
      let integer := n = "PPID" || n = "UID" || n = "EUID"
      let readOnly := integer || n = "BASHOPTS" || n = "SHELLOPTS"
      some (name, ⟨v, { Attributes.none with integer, readOnly }⟩)
    | .plain, none, some v => if n = "IFS" || n = "PPID" then some (name, ⟨v, .none⟩) else none
    | _, _, _ => none
  allIn (s.frames ++ [more])

/-- Writes declarations of all variables of a kind. -/
def listKind (letters : List Char) (scope : Option Frame) : Act Unit := do
  let s ← get
  let all :=
    match scope with
    | some f => allIn [f]
    | none => s.variables
  let out := (all.filter fun e => e.2.isOf letters).flatMap fun (n, v) => v.declaration n ++ ['\n']
  let _ ← emit 1 out
  ends 0

/-- Functions in order of their names. -/
def State.sortedFunctions (s : State) : List (Bytes × Function) :=
  s.functions.mergeSort fun a b => !(b.1 < a.1)

/-- The declaration of the name of a function. -/
def Function.declaration (name : Bytes) (f : Function) : Bytes :=
  "declare -f".toList ++ (if f.readOnly then ['r'] else []) ++ (if f.exported then ['x'] else []) ++
    ' ' :: name

/-- Writes all variables and functions as `set` does. -/
def listAll : Act Unit := do
  let s ← get
  let values := s.variables.flatMap fun (n, v) =>
    match s.dialect with
    | .bash => v.listing n
    | .plain =>
      match v.value.scalar with
      | some t => n ++ '=' :: Quoting.plainSingle t ++ ['\n']
      | none => []
  let functions :=
    match s.dialect with
    | .bash => s.sortedFunctions.flatMap fun (n, f) => Listing.function n f.body
    | .plain => []
  let _ ← emit 1 (values ++ functions)
  ends 0

/-- Writes the declarations of variables that are named. -/
def listNamed (m : Declaring) (names : List Bytes) : Act Unit := do
  let oks ← names.mapM fun n => do
    let s ← get
    let v :=
      if m.isLocal && m.command = "local" then findLocal s.locals s.frames n
      else (findIn s.frames n).or ((s.special? n).map fun v => ⟨v, .none⟩)
    match v with
    | some v =>
      let _ ← emit 1 (v.declaration n ++ ['\n'])
      return true
    | none =>
      complain (m.command ++ ": " ++ shown n ++ ": not found")
      return false
  ends (if oks.all id then 0 else 1)

/-! ## Functions -/

/-- A function with a letter on or off. -/
def Function.set (f : Function) (on : Bool) (c : Char) : Function :=
  match c with
  | 'r' => { f with readOnly := on }
  | 'x' => { f with exported := on }
  | _ => f

/-- Shows functions, or changes what is special about them. -/
def declareFunctions (m : Declaring) (names : List Bytes) : Act Unit := do
  let s ← get
  let short := m.on.contains 'F'
  let change := !short && (m.on.contains 'r' || m.on.contains 'x' || m.off.contains 'x' ||
    m.on.contains 't' || m.off.contains 't')
  let text (n : Bytes) (f : Function) : Bytes :=
    if short then n ++ ['\n'] else Listing.function n f.body
  match names with
  | [] =>
    let chosen := s.sortedFunctions.filter fun e =>
      (!m.on.contains 'r' || e.2.readOnly) && (!m.on.contains 'x' || e.2.exported)
    let out := chosen.flatMap fun (n, f) =>
      if short then f.declaration n ++ ['\n']
      else
        Listing.function n f.body ++
          if f.readOnly || f.exported then f.declaration n ++ ['\n'] else []
    let _ ← emit 1 out
    ends 0
  | names =>
    let oks ← names.mapM fun n => do
      match (← get).functions.lookup n with
      | none => return false
      | some f =>
        if change then
          let f := m.off.foldl (fun f c => f.set false c) (m.on.foldl (fun f c => f.set true c) f)
          modify fun s => { s with
            functions := s.functions.map fun e => if e.1 = n then (n, f) else e }
        else
          let _ ← emit 1 (text n f)
        return true
    ends (if oks.all id then 0 else 1)

/-! ## The commands -/

/-- Declares variables. -/
def declare (command : String) (ds : List Declared) : Act Unit := do
  let s ← get
  let inFunction := s.locals ≠ 0
  if command = "local" && !inFunction then
    fail 1 "local: can only be used in a function"
    return
  match mannerLetters "aAfFgiIlnprtuxc".toList ds [] [] with
  | .error o =>
    complain (command ++ ": " ++ shown o ++ ": invalid option")
    usage command (declarationForm command)
  | .ok (on, off, rest) =>
    let m : Declaring :=
      ⟨command, on, off, inFunction && !on.contains 'g', inFunction && on.contains 'g'⟩
    let kind := on.filter "aAilnrtuxc".toList.contains
    if on.contains 'f' || on.contains 'F' then declareFunctions m (rest.map Declared.raw)
    else if on.contains 'p' || off.contains 'p' then
      if rest.isEmpty then
        listKind kind (if command = "local" then s.frames[s.frames.length - s.locals]? else none)
      else listNamed m (rest.map Declared.raw)
    else if rest.isEmpty then
      if command = "local" then listKind kind s.frames[s.frames.length - s.locals]?
      else if kind.isEmpty then listAll
      else listKind kind none
    else if command = "local" && rest.any fun d => d.raw = ['-'] then ends 0
    else ends (if ← declareEach m rest then 0 else 1)

/-- Declares functions that are exported or cannot be changed. -/
def markFunctions (command : String) (on : Bool) (names : List Bytes) : Act Unit := do
  let letter := if command = "export" then 'x' else 'r'
  let m : Declaring := ⟨command, if on then [letter] else [], if on then [] else [letter], false, false⟩
  match names with
  | [] => declareFunctions m []
  | names =>
    let oks ← names.mapM fun n => do
      match (← get).functions.lookup n with
      | none =>
        complain (command ++ ": " ++ shown n ++ ": not a function")
        return false
      | some _ =>
        declareFunctions m [n]
        return true
    ends (if oks.all id then 0 else 1)

/-- Declares a variable that is exported or cannot be changed. -/
def markOne (m : Declaring) (d : Declared) : Act Bool := do
  let valid : Bool :=
    match d with
    | .word t => isName t
    | .text _ n index _ _ => isName n && index.isNone
    | .list _ n _ _ => isName n
  if !valid then
    refuseName m.command d.raw
    return false
  let s ← get
  let name := s.target d.name
  let ok ←
    match d with
    | .word _ => pure true
    | .text _ _ _ append t => assign "" name none append t
    | .list _ _ append elements =>
      let v := (findIn s.frames name).getD ⟨.unset, .none⟩
      match ← asList m name (m.on.contains 'A') true v with
      | none => pure false
      | some v =>
        if !v.attributes.readOnly then modify fun s => m.put s name v
        let ok ← assignList "" name append elements
        if !ok then leaveLine 1
        pure ok
  if ok then
    modify fun s =>
      let v := (findIn s.frames name).getD ⟨(s.special? name).getD .unset, .none⟩
      let a := m.off.foldl (fun a c => a.set false c) (m.on.foldl (fun a c => a.set true c)
        v.attributes)
      m.put s name ⟨v.value, a⟩
  return ok

/-- Declares variables that are exported or cannot be changed, in the shell of many features. -/
def mark (command : String) (ds : List Declared) : Act Unit := do
  let known := if command = "export" then "fnp" else "aAfp"
  match mannerLetters known.toList (ds.map asOption) [] [] with
  | .error o =>
    complain (command ++ ": " ++ shown o ++ ": invalid option")
    usage command (declarationForm command)
  | .ok (on, _, rest) =>
    let letter := if command = "export" then 'x' else 'r'
    let removes := command = "export" && on.contains 'n'
    let lists := on.filter fun c => c = 'a' || c = 'A'
    let m : Declaring :=
      if removes then ⟨command, lists, [letter], false, false⟩
      else ⟨command, letter :: lists, [], false, false⟩
    if on.contains 'f' then markFunctions command (!removes) (rest.map Declared.raw)
    else if rest.isEmpty then listKind (letter :: lists) none
    else
      let oks ← rest.mapM (markOne m)
      ends (if oks.all id then 0 else 1)
where
  /-- A word with a plus sign is no option. -/
  asOption (d : Declared) : Declared :=
    match d with
    | .word ('+' :: t) => .text ('+' :: t) ('+' :: t) none false []
    | d => d

/-- Declares variables in the plain shell. -/
def markPlain (command : String) (ds : List Declared) : Act Unit := do
  let s ← get
  let isExport := command = "export"
  if command = "local" && s.locals = 0 then failSpecial 2 "local: not in a function"
  let words := ds.map Declared.raw
  let marked (v : Variable) : Bool :=
    if isExport then v.attributes.exported else v.attributes.readOnly
  let names : List Declared :=
    match words with
    | ['-', '-'] :: _ => ds.drop 1
    | _ => ds
  match words.head? with
  | some ('-' :: c :: _) =>
    if c ≠ 'p' && c ≠ '-' then failSpecial 2 (command ++ ": Illegal option -" ++ String.singleton c)
  | _ => pure ()
  let listing := command ≠ "local" && (names.isEmpty || words.head? = some ['-', 'p'])
  if listing then
    let out := (s.variables.filter fun e => marked e.2).flatMap fun (n, v) =>
      command.toList ++ ' ' :: n ++
        ((v.value.scalar.map fun t => '=' :: Quoting.plainSingle t).getD []) ++ ['\n']
    let _ ← emit 1 out
    ends 0
  else
    names.forM fun d => do
      let name := d.raw.takeWhile (· ≠ '=')
      let value := if d.raw.contains '=' then some (d.raw.drop (name.length + 1)) else none
      if !isName name then failSpecial 2 (command ++ ": " ++ shown name ++ ": bad variable name")
      if value.isSome && (← get).isReadOnly name then
        failSpecial 2 (command ++ ": " ++ shown name ++ ": is read only")
      modify fun s =>
        let old := (findIn s.frames name).getD ⟨.unset, .none⟩
        let value := (value.map Value.text).getD old.value
        if command = "local" then
          let v := (findLocal s.locals s.frames name).getD old
          { s with frames := putLocal s.locals s.frames name { v with value } }
        else
          let a := old.attributes.set true (if isExport then 'x' else 'r')
          { s with frames := putIn s.frames name ⟨value, a⟩ }
    ends 0

/-- Runs a command that declares. -/
def declareAs (command : String) (ds : List Declared) : Act Unit := do
  match (← get).dialect with
  | .plain => markPlain command ds
  | .bash =>
    if command = "export" || command = "readonly" then mark command ds else declare command ds

/-! ## Removal -/

/-- Removes a variable; it stays a variable of the function if it was one. -/
def State.remove (s : State) (name : Bytes) : State :=
  let name := s.target name
  if s.locals ≠ 0 && s.dialect = .bash && (findLocal s.locals s.frames name).isSome then
    { s with frames := putLocal s.locals s.frames name ⟨.unset, .none⟩ }
  else if s.locals ≠ 0 && (findLocal s.locals s.frames name).isSome then
    { s with frames := putLocal s.locals s.frames name ⟨.unset, .none⟩ }
  else { s with frames := eraseIn s.frames name }

/-- Removes an element of a list; tells whether it could. -/
def removeElement (name index : Bytes) : Act Bool := do
  let s ← get
  let name := s.target name
  match findIn s.frames name with
  | none => return true
  | some v =>
    match v.value with
    | .keyed es =>
      set (s.put name { v with value := .keyed (es.filter (·.1 ≠ index)) })
      return true
    | value =>
      if index = ['@'] || index = ['*'] then
        match value with
        | .indexed _ => set (s.put name ⟨.indexed [], { v.attributes with bare := false }⟩)
        | _ => set (s.remove name)
        return true
      let i ← requireNumber "" index
      match value.position? i, value with
      | none, _ =>
        complain ("unset: [" ++ shown index ++ "]: bad array subscript")
        return false
      | some i, .indexed es =>
        set (s.put name { v with value := .indexed (es.filter (·.1 ≠ i)) })
        return true
      | some 0, _ =>
        set (s.remove name)
        return true
      | some _, _ =>
        complain ("unset: " ++ shown name ++ ": not an array variable")
        return false

/-- Removes a function; tells whether it could. -/
def removeFunction (name : Bytes) : Act Bool := do
  let s ← get
  match s.functions.lookup name with
  | some f =>
    if f.readOnly then
      complain ("unset: " ++ shown name ++ ": cannot unset: readonly function")
      return false
    set { s with functions := s.functions.filter (·.1 ≠ name) }
    return true
  | none => return true

/-- How `unset` is used. -/
def unsetForm : String := "unset [-f] [-v] [-n] [name ...]"

/-- Removes variables and functions. -/
def unset (args : List Bytes) : Act Unit := do
  let s ← get
  let plain := s.dialect = .plain
  withOptions "unset" unsetForm (if plain then "fv" else "fnv") "" args fun os names => do
    if hasOption os 'f' && hasOption os 'v' && !plain then
      fail 1 "unset: cannot simultaneously unset a function and a variable"
      return
    let oks ← names.mapM fun n => do
      let s ← get
      let (name, index) := Calculation.nameParts n
      if hasOption os 'f' then removeFunction n
      else if plain then
        if !isName n then failSpecial 2 ("unset: " ++ shown n ++ ": bad variable name")
        if s.isReadOnly n then failSpecial 2 ("unset: " ++ shown n ++ ": is read only")
        set (s.remove n)
        pure true
      else if hasOption os 'n' then
        set { s with frames := eraseIn s.frames n }
        pure true
      else
        if s.isReadOnly name then
          complain ("unset: " ++ shown n ++ ": cannot unset: readonly variable")
          pure false
        else
          match index with
          | some i => removeElement name i
          | none =>
            if (findIn s.frames (s.target name)).isNone && !hasOption os 'v' then
              removeFunction n
            else
              set (s.remove name)
              pure true
    ends (if oks.all id then 0 else 1)

end Provision.Shell
