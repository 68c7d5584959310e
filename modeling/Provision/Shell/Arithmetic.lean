import Provision.Shell.State

/-!
# Arithmetic

Expressions over integers of 64 bits, which wrap. An expression is evaluated while it is read, so
that a fault can name the place up to which it was understood. A variable counts as the expression
that its text is.
-/

namespace Provision.Shell

/-- An integer of 64 bits. -/
def wrap (n : Int) : Int := Int.bmod n 0x10000000000000000

/-- A truth value as a number. -/
def truth (b : Bool) : Int := if b then 1 else 0

/-- The text of an integer. -/
def intText (n : Int) : Bytes := (toString n).toList

/-- A power that wraps. -/
def wrappingPower (base : Int) (exponent : Nat) : Int :=
  if exponent < 2 then wrap (Int.pow base exponent)
  else
    let half := wrappingPower base (exponent / 2)
    wrap (half * half * (if exponent % 2 = 0 then 1 else base))
termination_by exponent

/-- The value of an operation that has one for all operands but a divisor of zero. -/
def operate (op : String) (a b : Int) : Int :=
  match op with
  | "+" => wrap (a + b)
  | "-" => wrap (a - b)
  | "*" => wrap (a * b)
  | "/" => wrap (a.tdiv b)
  | "%" => wrap (a.tmod b)
  | "<<" => wrap (a * Int.pow 2 (b % 64).toNat)
  | ">>" => a / Int.pow 2 (b % 64).toNat
  | "<" => truth (a < b)
  | "<=" => truth (a ≤ b)
  | ">" => truth (a > b)
  | ">=" => truth (a ≥ b)
  | "==" => truth (a = b)
  | "!=" => truth (a ≠ b)
  | "&" => (Int64.ofInt a &&& Int64.ofInt b).toInt
  | "^" => (Int64.ofInt a ^^^ Int64.ofInt b).toInt
  | "|" => (Int64.ofInt a ||| Int64.ofInt b).toInt
  | _ => 0

/-- The operators between two operands by how strongly they bind, weakest first. -/
def operatorLevels : List (List String) :=
  [["|"], ["^"], ["&"], ["==", "!="], ["<=", ">=", "<", ">"], ["<<", ">>"], ["+", "-"],
    ["*", "/", "%"]]

namespace Calculation

/-- A smallest piece of an expression. -/
inductive Sign where
  | ending
  | number
  | name
  | op (text : String)
  /-- An assignment that is combined with an operator. -/
  | combine (op : String)
  | before (step : Int)
  | after (step : Int)
  deriving DecidableEq, Repr

/-- How far an expression was read. -/
structure Reading where
  expression : Bytes
  rest : Bytes
  /-- The expression from the last piece on. -/
  lastPiece : Bytes
  current : Sign
  last : Sign
  /-- The variable that the piece is, and its value or that of the number. -/
  named : Bytes
  value : Int
  /-- The number of the element that the variable is. -/
  element : Option Nat
  /-- Whether values are asked for. -/
  idle : Bool

/-- A reading of an expression from its start. -/
def Reading.start (expression : Bytes) : Reading :=
  ⟨expression, expression, [], .ending, .ending, [], 0, none, false⟩

/-- A step of a calculation, which may come to its end by a fault. -/
abbrev Calc := StateT Reading (ExceptT Unit Act)

/-- The shell that calculates. -/
def shell : Calc State := StateT.lift (ExceptT.lift get)

/-- A step of the shell that calculates. -/
def act (a : Act α) : Calc α := StateT.lift (ExceptT.lift a)

/-- Whether a byte is blank. -/
def isBlank (c : Char) : Bool := c = ' ' || c = '\t' || c = '\n'

/-- The expression is at fault. -/
def fault (who : String) (message : String) : Calc α := do
  let r ← get
  let shownExpression := r.expression.dropWhile fun c => c = ' ' || c = '\t'
  act (complain (who ++ shown shownExpression ++ ": " ++ message ++ " (error token is \"" ++
    shown r.lastPiece ++ "\")"))
  throw ()

/-- The value of a digit, in bases up to 64. -/
def digitValue (base : Nat) (c : Char) : Nat :=
  if c.isDigit then c.toNat - 48
  else if 'a' ≤ c && c ≤ 'z' then c.toNat - 87
  else if 'A' ≤ c && c ≤ 'Z' then c.toNat - (if base ≤ 36 then 55 else 29)
  else if c = '@' then 62
  else 63

/-- The value of digits in a base, or why they have none; `fixed` if no base may follow. -/
def digits (base : Nat) (fixed : Bool) : Nat → Bytes → Except String Nat
  | value, [] => .ok value
  | value, c :: rest =>
    if c = '#' then
      if fixed then .error "invalid number"
      else if value < 2 || 64 < value then .error "invalid arithmetic base"
      else if rest.isEmpty then .error "invalid integer constant"
      else digits value true 0 rest
    else if base ≤ digitValue base c then .error "value too great for base"
    else digits base fixed (value * base + digitValue base c) rest
termination_by _ cs => cs.length

/-- The number of a text: base sixteen after `0x`, base eight after `0`, a base before a hash. -/
def number (cs : Bytes) : Except String Int :=
  match cs with
  | ['0'] => .ok 0
  | '0' :: x :: rest =>
    let r := if x = 'x' || x = 'X' then digits 16 true 0 rest else digits 8 true 0 (x :: rest)
    r.map fun n => wrap n
  | _ => (digits 10 false 0 cs).map fun n => wrap n

/-- The operators that are written with two bytes. -/
def longOperators : List String := ["==", "!=", ">=", "<=", "&&", "||", "**"]

/-- The bytes that are operators by themselves. -/
def operatorBytes : List Char :=
  ['=', '>', '<', '+', '-', '*', '/', '%', '!', '(', ')', '&', '|', '^', '~', '?', ':', ',']

/-- The operator that a text starts with after another piece, and what follows; none if it is no
operator. -/
def operatorAhead (current last : Sign) (c : Char) (rest : Bytes) :
    Except String (Option (Sign × Bytes)) :=
  let next := rest.head?.getD '\x00'
  let two := String.ofList [c, next]
  if longOperators.contains two then .ok (some (.op two, rest.drop 1))
  else if two = "<<" || two = ">>" then
    if (rest.drop 1).head? = some '=' then .ok (some (.combine two, rest.drop 2))
    else .ok (some (.op two, rest.drop 1))
  else if (c = '-' || c = '+') && next = c then
    let step : Int := if c = '+' then 1 else -1
    if current = .name then .ok (some (.after step, rest.drop 1))
    else if current = .number && (last = .before 1 || last = .before (-1)) then
      .error (String.ofList [c, c] ++ ": assignment requires lvalue")
    else if ((rest.drop 1).dropWhile isBlank).head?.any isNameStart then
      .ok (some (.before step, rest.drop 1))
    else .ok (some (.op (String.singleton c), rest))
  else if next = '=' && ['*', '/', '%', '+', '-', '&', '^', '|'].contains c then
    .ok (some (.combine (String.singleton c), rest.drop 1))
  else if operatorBytes.contains c then .ok (some (.op (String.singleton c), rest))
  else .ok none

/-- The text up to the bracket that closes a subscript. -/
def subscript : Nat → Bytes → Option Bytes
  | _, [] => none
  | depth, c :: rest =>
    if c = ']' then
      match depth with
      | 0 => some []
      | d + 1 => (subscript d rest).map (c :: ·)
    else if c = '[' then (subscript (depth + 1) rest).map (c :: ·)
    else (subscript depth rest).map (c :: ·)

/-- The name and the subscript of a variable as it is written. -/
def nameParts (cs : Bytes) : Bytes × Option Bytes :=
  let name := cs.takeWhile isNameChar
  match cs.drop name.length with
  | '[' :: rest => (name, subscript 0 rest)
  | _ => (name, none)

/-- The deepest that expressions may name each other. -/
def deepest : Nat := 1024

/-- A text without the quotes around or in it. -/
def unquoted (cs : Bytes) : Bytes := cs.filter fun c => c ≠ '"' && c ≠ '\''

mutual

/-- The value of a text as an expression. -/
def subexpression (who : String) : Nat → Nat → Bytes → Calc Int
  | 0, _, _ => pure 0
  | fuel + 1, depth, cs => do
    if cs.all isBlank then return 0
    let outer ← get
    if depth = 0 then fault who "expression recursion level exceeded"
    set (Reading.start cs)
    readSign who fuel depth
    let value ← commas who fuel depth
    if (← get).current ≠ .ending then fault who "syntax error in expression"
    set outer
    return value

/-- Expressions of which the last counts. -/
def commas (who : String) : Nat → Nat → Calc Int
  | 0, _ => pure 0
  | fuel + 1, depth => do
    let value ← assigned who fuel depth
    if (← get).current = .op "," then
      readSign who fuel depth
      commas who fuel depth
    else return value

/-- An expression that may be an assignment. -/
def assigned (who : String) : Nat → Nat → Calc Int
  | 0, _ => pure 0
  | fuel + 1, depth => do
    let value ← choice who fuel depth
    let r ← get
    let combined : Option (Option String) :=
      match r.current with
      | .op "=" => some none
      | .combine op => some (some op)
      | _ => none
    match combined with
    | none => return value
    | some op =>
      if r.last ≠ .name then fault who "attempted assignment to non-variable"
      readSign who fuel depth
      let right ← assigned who fuel depth
      let idle := (← get).idle
      let result ←
        match op with
        | none => pure right
        | some op =>
          if (op = "/" || op = "%") && right = 0 then
            if idle then pure (operate op value 1) else fault who "division by 0"
          else pure (operate op value right)
      if !idle then store who fuel depth r.named (if op.isSome then r.element else none) result
      return result

/-- An expression that may be a choice. -/
def choice (who : String) : Nat → Nat → Calc Int
  | 0, _ => pure 0
  | fuel + 1, depth => do
    let c ← alternatives who fuel depth
    if (← get).current ≠ .op "?" then return c
    let idle := (← get).idle
    modify fun r => { r with idle := idle || c = 0 }
    readSign who fuel depth
    let sign := (← get).current
    if sign = .ending || sign = .op ":" then fault who "expression expected"
    let a ← commas who fuel depth
    modify fun r => { r with idle }
    if (← get).current ≠ .op ":" then fault who "\x60:' expected for conditional expression"
    modify fun r => { r with idle := idle || c ≠ 0 }
    readSign who fuel depth
    if (← get).current = .ending then fault who "expression expected"
    let b ← choice who fuel depth
    modify fun r => { r with idle, last := .op "?" }
    return if c ≠ 0 then a else b

/-- Operands of which one must hold. -/
def alternatives (who : String) : Nat → Nat → Calc Int
  | 0, _ => pure 0
  | fuel + 1, depth => do
    let a ← conditions who fuel depth
    moreOf who fuel depth "||" a

/-- Operands that must all hold. -/
def conditions (who : String) : Nat → Nat → Calc Int
  | 0, _ => pure 0
  | fuel + 1, depth => do
    let a ← operands who fuel depth operatorLevels
    moreOf who fuel depth "&&" a

/-- The other operands of a condition, which do not count if the first decides. -/
def moreOf (who : String) : Nat → Nat → String → Int → Calc Int
  | 0, _, _, a => pure a
  | fuel + 1, depth, op, a => do
    if (← get).current ≠ .op op then return a
    let idle := (← get).idle
    modify fun r => { r with idle := idle || (a ≠ 0) = (op = "||") }
    readSign who fuel depth
    let b ←
      if op = "||" then conditions who fuel depth else operands who fuel depth operatorLevels
    modify fun r => { r with idle, last := .op op }
    let value := if op = "||" then truth (a ≠ 0 || b ≠ 0) else truth (a ≠ 0 && b ≠ 0)
    moreOf who fuel depth op value

/-- Operands with operators of some strengths between them. -/
def operands (who : String) : Nat → Nat → List (List String) → Calc Int
  | 0, _, _ => pure 0
  | fuel + 1, depth, [] => power who fuel depth
  | fuel + 1, depth, level :: stronger => do
    let a ← operands who fuel depth stronger
    moreOperands who fuel depth level stronger a

/-- The other operands of some operators. -/
def moreOperands (who : String) : Nat → Nat → List String → List (List String) → Int → Calc Int
  | 0, _, _, _, a => pure a
  | fuel + 1, depth, level, stronger, a => do
    match (← get).current with
    | .op op =>
      if !level.contains op then return a
      let place := (← get).rest
      readSign who fuel depth
      let b ← operands who fuel depth stronger
      let r ← get
      let divides := op = "/" || op = "%"
      if divides && b = 0 && !r.idle then
        set { r with lastPiece := place.dropWhile fun c => c = ' ' || c = '\t' }
        fault who "division by 0"
      let value := operate op a (if divides && b = 0 then 1 else b)
      modify fun r => { r with last := .number }
      moreOperands who fuel depth level stronger value
    | _ => return a

/-- An operand with its powers. -/
def power (who : String) : Nat → Nat → Calc Int
  | 0, _ => pure 0
  | fuel + 1, depth => do
    let base ← signed who fuel depth
    if (← get).current ≠ .op "**" then return base
    readSign who fuel depth
    let exponent ← power who fuel depth
    modify fun r => { r with last := .number }
    if exponent < 0 then fault who "exponent less than 0"
    return wrappingPower base exponent.toNat

/-- An operand with operators before it. -/
def signed (who : String) : Nat → Nat → Calc Int
  | 0, _ => pure 0
  | fuel + 1, depth => do
    let apply (f : Int → Int) : Calc Int := do
      readSign who fuel depth
      let value ← signed who fuel depth
      modify fun r => { r with last := .number }
      return f value
    match (← get).current with
    | .op "!" => apply fun n => truth (n = 0)
    | .op "~" => apply fun n => -n - 1
    | .op "-" => apply fun n => wrap (-n)
    | .op "+" => apply id
    | _ => operand who fuel depth

/-- A number, a variable, or an expression between parentheses. -/
def operand (who : String) : Nat → Nat → Calc Int
  | 0, _ => pure 0
  | fuel + 1, depth => do
    let r ← get
    match r.current with
    | .before step =>
      set { r with last := r.current }
      readSign who fuel depth
      let r ← get
      if r.current ≠ .name then
        fault who "identifier expected after pre-increment or pre-decrement"
      let value := wrap (r.value + step)
      if !r.idle then store who fuel depth r.named r.element value
      modify fun r => { r with current := .number }
      readSign who fuel depth
      return value
    | .op "(" =>
      readSign who fuel depth
      let value ← commas who fuel depth
      if (← get).current ≠ .op ")" then fault who "missing \x60)'"
      readSign who fuel depth
      return value
    | .number =>
      readSign who fuel depth
      return r.value
    | .name =>
      set { r with idle := true }
      readSign who fuel depth
      match (← get).current with
      | .after step =>
        if !r.idle then store who fuel depth r.named r.element (wrap (r.value + step))
        modify fun t => { t with
          idle := r.idle, named := r.named, element := r.element, last := .name
          current := .number }
        readSign who fuel depth
        return r.value
      | _ =>
        set r
        readSign who fuel depth
        return r.value
    | _ => fault who "syntax error: operand expected"

/-- Reads the next piece. -/
def readSign (who : String) : Nat → Nat → Calc Unit
  | 0, _ => pure ()
  | fuel + 1, depth => do
    let r ← get
    match r.rest.dropWhile isBlank with
    | [] => set { r with last := r.current, current := .ending, rest := [] }
    | c :: cs =>
      let here := c :: cs
      let r := { r with lastPiece := here }
      set r
      if isNameStart c then
        let name := here.takeWhile isNameChar
        let after := here.drop name.length
        let raw ←
          match after with
          | '[' :: inner =>
            match subscript 0 inner with
            | some text => pure (name ++ '[' :: text ++ [']'])
            | none => fault who "bad array subscript"
          | _ => pure name
        let rest := here.drop raw.length
        let assigns :=
          match rest.dropWhile isBlank with
          | '=' :: '=' :: _ => false
          | '=' :: _ => true
          | _ => false
        let asked := r.current = .before 1 || r.current = .before (-1) || !assigns
        let (value, element) ←
          if asked && !r.idle then fetch who fuel depth raw else pure (0, none)
        set { r with rest, last := r.current, current := .name, named := raw, value, element }
      else if c.isDigit then
        let text := here.takeWhile fun c => c.isAlphanum || c = '#' || c = '@' || c = '_'
        match number text with
        | .ok value =>
          set { r with
            rest := here.drop text.length, last := r.current, current := .number, value }
        | .error message =>
          set { r with
            expression := r.expression.take (r.expression.length - here.length + text.length)
            lastPiece := text }
          fault who message
      else
        match operatorAhead r.current r.last c cs with
        | .error message => fault who message
        | .ok (some (sign, rest)) => set { r with rest, last := r.current, current := sign }
        | .ok none =>
          match r.current with
          | .name | .number => fault who "syntax error: invalid arithmetic operator"
          | _ => fault who "syntax error: operand expected"

/-- The number of an element of a list by numbers. -/
def elementNumber (who : String) : Nat → Nat → Bytes → Option Variable → Bytes → Calc Nat
  | 0, _, _, _, _ => pure 0
  | fuel + 1, depth, name, v, index => do
    let i ← subexpression who fuel (depth - 1) index
    match ((v.map Variable.value).getD .unset).position? i with
    | some n => return n
    | none =>
      act (complain (shown name ++ "[" ++ shown index ++ "]: bad array subscript"))
      throw ()

/-- The value of a variable as it is written, and the number of the element that it is. -/
def fetch (who : String) : Nat → Nat → Bytes → Calc (Int × Option Nat)
  | 0, _, _ => pure (0, none)
  | fuel + 1, depth, raw => do
    let s ← shell
    let (name, index) := nameParts raw
    let v := s.variableOf name
    if (v.all fun v => v.value = .unset) && s.has "nounset" then
      act (complain (shown name ++ ": unbound variable"))
      act (leaveShell (if s.subshells = 0 then 127 else 1))
    let (text, element) ←
      match index, v.map Variable.value with
      | none, _ => pure (v.bind fun v => v.value.scalar, none)
      | some key, some (.keyed es) => pure ((Value.keyed es).key? (unquoted key), none)
      | some index, _ => do
        let n ← elementNumber who fuel depth name v index
        pure ((v.bind fun v => v.value.at? n), some n)
    let value ←
      match text with
      | some t => subexpression who fuel (depth - 1) t
      | none => pure 0
    return (value, element)

/-- Sets a variable as it is written, or the element of it with a number, to a value. -/
def store (who : String) : Nat → Nat → Bytes → Option Nat → Int → Calc Unit
  | 0, _, _, _, _ => pure ()
  | fuel + 1, depth, raw, element, n => do
    let s ← shell
    let (name, index) := nameParts raw
    if s.isReadOnly name then
      act (complain (who ++ shown name ++ ": readonly variable"))
      throw ()
    let v := s.variableOf name
    let attributes := (v.map Variable.attributes).getD .none
    let value := (v.map Variable.value).getD .unset
    match index, element, value with
    | none, _, _ => act (modify fun s => s.setText name (intText n))
    | some key, _, .keyed es =>
      act (modify fun s =>
        s.put name ⟨(Value.keyed es).putKey (unquoted key) (intText n), attributes⟩)
    | some _, some i, value =>
      act (modify fun s => s.put name ⟨value.putAt i (intText n), attributes⟩)
    | some index, none, value =>
      let i ← elementNumber who fuel depth name v index
      act (modify fun s => s.put name ⟨value.putAt i (intText n), attributes⟩)

end

/-- A bound that no calculation with an expression of this length reaches. -/
def fuelFor (cs : Bytes) : Nat := 100000 + 40 * cs.length

end Calculation

/-- The value of an expression of the shell of many features; none after a diagnostic about a fault
of it, which names a command. -/
def calculate (who : String) (cs : Bytes) : Act (Option Int) := do
  let r ← ((Calculation.subexpression who (Calculation.fuelFor cs) Calculation.deepest cs).run
    (Calculation.Reading.start cs)).run
  match r with
  | .ok (value, _) => return some value
  | .error () => return none

end Provision.Shell
