import Provision.Shell.Access
import Provision.Shell.Arithmetic

/-!
# Tests

The conditions of `test`: what is asked of words, numbers and files. How many words there are decides
how they are read.
-/

namespace Provision.Shell

namespace Test

/-- A word that is no condition, with the words about it. -/
abbrev Asked := ExceptT String Act

/-- A step of the shell that asks. -/
def act (a : Act α) : Asked α := ExceptT.lift a

/-- The integer that a word is, with blanks around it. -/
def integer? (cs : Bytes) : Option Int :=
  let isBlank (c : Char) : Bool := c = ' ' || ('\t' ≤ c && c ≤ '\r')
  let cs := ((cs.dropWhile isBlank).reverse.dropWhile isBlank).reverse
  let (negative, ds) :=
    match cs with
    | '-' :: rest => (true, rest)
    | '+' :: rest => (false, rest)
    | _ => (false, cs)
  if ds.isEmpty || !ds.all Char.isDigit then none
  else
    let n : Int := State.digitsNumber ds
    let n := if negative then -n else n
    if -0x8000000000000000 ≤ n && n < 0x8000000000000000 then some n else none

/-- The operators on one word. -/
def unary : Dialect → List String
  | .bash =>
    ["-a", "-b", "-c", "-d", "-e", "-f", "-g", "-h", "-k", "-n", "-o", "-p", "-r", "-s", "-t",
      "-u", "-v", "-w", "-x", "-z", "-G", "-L", "-N", "-O", "-R", "-S"]
  | .plain =>
    ["-b", "-c", "-d", "-e", "-f", "-g", "-h", "-k", "-n", "-p", "-r", "-s", "-t", "-u", "-w",
      "-x", "-z", "-G", "-L", "-O", "-S"]

/-- The operators between two words. -/
def binary : Dialect → List String
  | .bash =>
    ["=", "==", "!=", "<", ">", "-eq", "-ne", "-lt", "-le", "-gt", "-ge", "-nt", "-ot", "-ef"]
  | .plain =>
    ["=", "!=", "<", ">", "-eq", "-ne", "-lt", "-le", "-gt", "-ge", "-nt", "-ot", "-ef"]

/-- Whether a variable, or an element of one, has a value. -/
def isSet (s : State) (raw : Bytes) : Act Bool := do
  let (name, index) := Calculation.nameParts raw
  let value := ((s.variableOf name).map Variable.value).getD .unset
  match index with
  | none =>
    if isName name then return value.scalar.isSome
    else return (s.parameter? raw).isSome
  | some ['@'] | some ['*'] => return !value.texts.isEmpty
  | some index =>
    match value with
    | .keyed _ => return (value.key? index).isSome
    | _ =>
      match ← calculate "" index with
      | some n => return ((value.position? n).bind value.at?).isSome
      | none => return false

/-- Whether what is asked of a file holds. -/
def ofFile (s : State) (op : String) (path : Bytes) : Bool :=
  let entry := (s.find path).toOption
  let isPath := (descriptorPath? path).any fun n => (s.stream? n).isSome
  let mode : Nat :=
    match s.locate path, entry with
    | .ok place, some e => s.machine.modeOf place e
    | _, _ => 0
  match op with
  | "-e" | "-a" | "-r" | "-w" | "-O" | "-G" => entry.isSome || isPath
  | "-d" =>
    match entry with
    | some .directory => true
    | _ => false
  | "-f" =>
    match entry with
    | some (.file (.regular _)) | some (.file (.program _)) => true
    | _ => false
  | "-s" =>
    match entry with
    | some (.file (.regular n)) => ((s.machine.nodes[n]?).map Node.size).getD 0 ≠ 0
    | some .directory | some (.file (.program _)) => true
    | _ => false
  | "-x" =>
    match entry with
    | some .directory => true
    | _ => mode &&& 0o111 ≠ 0
  | "-c" =>
    match entry with
    | some (.file (.device _)) => true
    | _ => false
  | "-h" | "-L" =>
    match s.machine.find s.here false path with
    | .ok (.file (.link _)) => true
    | _ => false
  | "-u" => mode &&& 0o4000 ≠ 0
  | "-g" => mode &&& 0o2000 ≠ 0
  | "-k" => mode &&& 0o1000 ≠ 0
  | _ => false

/-- What is asked of one word. -/
def ofWord (op : String) (arg : Bytes) : Asked Bool := do
  let s : State ← act get
  match op with
  | "-n" => return !arg.isEmpty
  | "-z" => return arg.isEmpty
  | "-t" =>
    match integer? arg with
    | some _ => return false
    | none =>
      if s.dialect = .bash then throw (shown arg ++ ": integer expression expected")
      else throw ("Illegal number: " ++ shown arg)
  | "-v" => act (isSet s arg)
  | "-o" => return s.has (shown arg)
  | "-R" =>
    return (findIn s.frames arg).any (·.attributes.reference)
  | _ => return ofFile s op arg

/-- When the file at a path changed. -/
def changed (s : State) (path : Bytes) : Option (Int × Nat) :=
  match s.find path with
  | .ok (.file (.regular n)) => (s.machine.nodes[n]?).map fun n => (n.stamp, n.changed)
  | .ok _ => some (0, 0)
  | .error _ => none

/-- Whether an instant of a change is later than another one. -/
def isLater (a b : Int × Nat) : Bool := b.1 < a.1 || a.1 = b.1 && b.2 < a.2

/-- What is asked of two words. -/
def ofWords (op : String) (a b : Bytes) : Asked Bool := do
  let s : State ← act get
  let number (w : Bytes) : Asked Int :=
    match integer? w with
    | some n => pure n
    | none =>
      if s.dialect = .bash then throw (shown w ++ ": integer expression expected")
      else throw ("Illegal number: " ++ shown w)
  let numbers (p : Int → Int → Bool) : Asked Bool := do
    let m ← number a
    let n ← number b
    return p m n
  match op with
  | "=" | "==" => return a = b
  | "!=" => return a ≠ b
  | "<" => return a < b
  | ">" => return b < a
  | "-eq" => numbers (· == ·)
  | "-ne" => numbers (· != ·)
  | "-lt" => numbers fun m n => m < n
  | "-le" => numbers fun m n => m ≤ n
  | "-gt" => numbers fun m n => m > n
  | "-ge" => numbers fun m n => m ≥ n
  | "-nt" =>
    match changed s a, changed s b with
    | some m, some n => return isLater m n
    | some _, none => return s.dialect = .bash
    | _, _ => return false
  | "-ot" =>
    match changed s a, changed s b with
    | some m, some n => return isLater n m
    | none, some _ => return s.dialect = .bash
    | _, _ => return false
  | "-ef" =>
    match s.locate a, s.locate b with
    | .ok p, .ok q =>
      let there := (s.find a).toOption.isSome
      return p = q && there
    | _, _ => return false
  | _ => return false

/-- Whether a word is an operator on one word. -/
def isUnary (d : Dialect) (w : Bytes) : Bool := (unary d).contains (shown w)

/-- Whether a word is an operator between two words. -/
def isBinary (d : Dialect) (w : Bytes) : Bool := (binary d).contains (shown w)

mutual

/-- A condition of any number of words; what is left of the words. `ending` is what stands after
the last of them. -/
def orOf (ending : Option Bytes) : Nat → List Bytes → Asked (Bool × List Bytes)
  | 0, ws => pure (false, ws)
  | fuel + 1, ws => do
    let (a, rest) ← andOf ending fuel ws
    match rest with
    | ['-', 'o'] :: rest =>
      let (b, rest) ← orOf ending fuel rest
      return (a || b, rest)
    | _ => return (a, rest)

/-- Conditions that must all hold. -/
def andOf (ending : Option Bytes) : Nat → List Bytes → Asked (Bool × List Bytes)
  | 0, ws => pure (false, ws)
  | fuel + 1, ws => do
    let (a, rest) ← term ending fuel ws
    match rest with
    | ['-', 'a'] :: rest =>
      let (b, rest) ← andOf ending fuel rest
      return (a && b, rest)
    | _ => return (a, rest)

/-- A single condition. -/
def term (ending : Option Bytes) : Nat → List Bytes → Asked (Bool × List Bytes)
  | 0, ws => pure (false, ws)
  | fuel + 1, ws => do
    match ws with
    | [] => throw "argument expected"
    | ['!'] :: rest =>
      let (a, rest) ← term ending fuel rest
      return (!a, rest)
    | ['('] :: rest =>
      if rest.isEmpty then throw "argument expected"
      let (a, rest) ← orOf ending fuel rest
      match rest with
      | [')'] :: rest => return (a, rest)
      | w :: _ => throw ("\x60)' expected, found " ++ shown w)
      | [] =>
        match ending with
        | some w => throw ("\x60)' expected, found " ++ shown w)
        | none => throw "\x60)' expected"
    | a :: op :: b :: rest =>
      if isBinary .bash op then return (← ofWords (shown op) a b, rest)
      else if isUnary .bash a then return (← ofWord (shown a) op, b :: rest)
      else return (!a.isEmpty, op :: b :: rest)
    | [a, b] =>
      if isUnary .bash a then return (← ofWord (shown a) b, [])
      else return (!a.isEmpty, [b])
    | [a] => return (!a.isEmpty, [])

end

/-- A condition of two words. -/
def ofTwo (a b : Bytes) : Asked Bool := do
  if a = ['!'] then return b.isEmpty
  if isUnary .bash a then ofWord (shown a) b
  else throw (shown a ++ ": unary operator expected")

/-- A condition of three words. -/
def ofThree (a op b : Bytes) : Asked Bool := do
  if isBinary .bash op then ofWords (shown op) a b
  else if op = ['-', 'a'] then return !a.isEmpty && !b.isEmpty
  else if op = ['-', 'o'] then return !a.isEmpty || !b.isEmpty
  else if a = ['!'] then return !(← ofTwo op b)
  else if a = ['('] && b = [')'] then return !op.isEmpty
  else throw (shown op ++ ": binary operator expected")

/-- The condition that some words are. -/
def ofAll (ending : Option Bytes) (ws : List Bytes) : Asked Bool := do
  match ws with
  | [] => return false
  | [a] => return !a.isEmpty
  | [a, b] => ofTwo a b
  | [a, op, b] => ofThree a op b
  | ['!'] :: a :: op :: b :: [] => return !(← ofThree a op b)
  | [['('], a, b, [')']] => ofTwo a b
  | ws =>
    let (value, rest) ← orOf ending (2 * ws.length + 4) ws
    match rest with
    | [] => return value
    | w :: _ =>
      if w.head? = some '-' then throw ("syntax error: \x60" ++ shown w ++ "' unexpected")
      else throw "too many arguments"

/-! ## Tests of the plain shell -/

/-- What a word is to the plain shell. -/
inductive Role where
  | ending
  | unary
  | binary
  | conjunction
  | disjunction
  | negation
  | opening
  | closing
  | operand
  deriving DecidableEq

/-- What the first of some words is. -/
def roleOf (ws : List Bytes) : Role :=
  match ws with
  | [] => .ending
  | w :: rest =>
    if isUnary .plain w then
      match rest with
      | [] => .operand
      | [_] => .unary
      | op :: t :: _ => if isBinary .plain op && t ≠ [')'] then .operand else .unary
    else if isBinary .plain w then .binary
    else
      match shown w with
      | "-a" => .conjunction
      | "-o" => .disjunction
      | "!" => .negation
      | "(" => if rest.isEmpty then .operand else .opening
      | ")" => .closing
      | _ => .operand

mutual

/-- Conditions of which one must hold; the words from the last one that was read on. -/
def plainOr : Nat → Role → List Bytes → Asked (Bool × List Bytes)
  | 0, _, ws => pure (false, ws)
  | fuel + 1, role, ws => do
    let (a, ws) ← plainAnd fuel role ws
    if roleOf (ws.drop 1) = .disjunction then
      let rest := ws.drop 2
      let (b, ws) ← plainOr fuel (roleOf rest) rest
      return (a || b, ws)
    else return (a, ws)

/-- Conditions that must all hold. -/
def plainAnd : Nat → Role → List Bytes → Asked (Bool × List Bytes)
  | 0, _, ws => pure (false, ws)
  | fuel + 1, role, ws => do
    let (a, ws) ← plainNot fuel role ws
    if roleOf (ws.drop 1) = .conjunction then
      let rest := ws.drop 2
      let (b, ws) ← plainAnd fuel (roleOf rest) rest
      return (a && b, ws)
    else return (a, ws)

/-- A condition or its opposite. -/
def plainNot : Nat → Role → List Bytes → Asked (Bool × List Bytes)
  | 0, _, ws => pure (false, ws)
  | fuel + 1, role, ws => do
    if role = .negation then
      let next := roleOf (ws.drop 1)
      let (a, ws) ← plainNot fuel next (if next = .ending then ws else ws.drop 1)
      return (!a, ws)
    else plainTerm fuel role ws

/-- A single condition. -/
def plainTerm : Nat → Role → List Bytes → Asked (Bool × List Bytes)
  | 0, _, ws => pure (false, ws)
  | fuel + 1, role, ws => do
    match role, ws with
    | .ending, ws => return (false, ws)
    | .opening, _ :: rest =>
      if roleOf rest = .closing then return (false, rest)
      let (a, ws) ← plainOr fuel (roleOf rest) rest
      if roleOf (ws.drop 1) = .closing then return (a, ws.drop 1)
      throw "closing paren expected"
    | .unary, op :: arg :: rest => return (← ofWord (shown op) arg, arg :: rest)
    | .unary, op :: [] => throw (shown op ++ ": argument expected")
    | _, a :: op :: rest =>
      if roleOf (op :: rest) = .binary then
        match rest with
        | [] => throw (shown op ++ ": argument expected")
        | b :: rest => return (← ofWords (shown op) a b, b :: rest)
      else return (!a.isEmpty, ws)
    | _, [a] => return (!a.isEmpty, ws)
    | _, [] => return (false, ws)

end

/-- The condition that some words are to the plain shell. -/
def plainAll (ws : List Bytes) : Asked Bool := do
  let decide (role : Role) (ws : List Bytes) : Asked Bool := do
    let (a, rest) ← plainOr (4 * ws.length + 8) role ws
    match rest with
    | w :: _ :: _ => throw (shown w ++ ": unexpected operator")
    | _ => return a
  match ws with
  | [] => return false
  | [a, op, b] =>
    if isBinary .plain op then decide .operand ws
    else if a = ['('] && b = [')'] then decide (roleOf [op]) [op]
    else decide (roleOf ws) ws
  | [['('], a, b, [')']] => decide (roleOf [a, b]) [a, b]
  | ws => decide (roleOf ws) ws

/-- The status of a test under a name. -/
def run (name : String) (ws : List Bytes) : Act Nat := do
  let s ← get
  let finish (r : Except String Bool) : Act Nat := do
    match r with
    | .ok b => return if b then 0 else 1
    | .error message =>
      complain (name ++ ": " ++ message)
      return 2
  let decide (ending : Option Bytes) (ws : List Bytes) : Asked Bool :=
    match s.dialect with
    | .bash => ofAll ending ws
    | .plain => plainAll ws
  if name = "[" then
    match ws.getLast? with
    | some [']'] => finish (← (decide (some [']']) ws.dropLast).run)
    | _ => finish (.error (if s.dialect = .bash then "missing \x60]'" else "missing ]"))
  else finish (← (decide none ws).run)

end Test

end Provision.Shell
