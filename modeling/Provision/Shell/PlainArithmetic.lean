import Provision.Shell.Arithmetic

/-!
# Arithmetic of the plain shell

The plain shell knows the operators of integers and assignments, and takes from a variable nothing
but a number. A fault of an expression ends the script.
-/

namespace Provision.Shell

namespace PlainCalculation

/-- A smallest piece of an expression. -/
inductive Sign where
  | ending
  | number (n : Int)
  | name (n : Bytes)
  | op (text : String)
  | bad
  deriving DecidableEq, Repr

/-- The operators, longest first. -/
def operators : List String :=
  ["<<=", ">>=", "<<", ">>", "<=", ">=", "==", "!=", "&&", "||", "+=", "-=", "*=", "/=", "%=",
    "&=", "^=", "|=", "=", "<", ">", "+", "-", "*", "/", "%", "!", "~", "&", "^", "|", "(", ")",
    "?", ":"]

/-- The operators that assign, and those that they combine with. -/
def assignments : List (String × String) :=
  [("<<=", "<<"), (">>=", ">>"), ("+=", "+"), ("-=", "-"), ("*=", "*"), ("/=", "/"), ("%=", "%"),
    ("&=", "&"), ("^=", "^"), ("|=", "|")]

/-- The greatest number. -/
def greatest : Int := 0x8000000000000000 - 1

/-- The number that a text starts with: base sixteen after `0x`, base eight after `0`. -/
def numberAhead (cs : Bytes) : Int × Bytes :=
  let value (base : Nat) (ds : Bytes) : Int :=
    min greatest (ds.foldl (fun n c => n * base + Calculation.digitValue 16 c) 0 : Nat)
  let hex (c : Char) : Bool := c.isDigit || ('a' ≤ c && c ≤ 'f') || ('A' ≤ c && c ≤ 'F')
  match cs with
  | '0' :: x :: d :: _ =>
    if (x = 'x' || x = 'X') && hex d then
      let ds := (cs.drop 2).takeWhile hex
      (value 16 ds, cs.drop (2 + ds.length))
    else octal value cs
  | '0' :: _ => octal value cs
  | _ =>
    let ds := cs.takeWhile Char.isDigit
    (value 10 ds, cs.drop ds.length)
where
  /-- A number of base eight. -/
  octal (value : Nat → Bytes → Int) (cs : Bytes) : Int × Bytes :=
    let ds := cs.takeWhile fun c => '0' ≤ c && c ≤ '7'
    (value 8 ds, cs.drop ds.length)

/-- The pieces of an expression. -/
def signs : Nat → Bytes → List Sign
  | 0, _ => []
  | fuel + 1, cs =>
    match cs.dropWhile Calculation.isBlank with
    | [] => []
    | c :: rest =>
      let here := c :: rest
      if isNameStart c then
        let name := here.takeWhile isNameChar
        .name name :: signs fuel (here.drop name.length)
      else if c.isDigit then
        let (n, rest) := numberAhead here
        .number n :: signs fuel rest
      else
        match operators.find? fun op => op.toList.isPrefixOf here with
        | some op => .op op :: signs fuel (here.drop op.length)
        | none => .bad :: signs fuel rest

/-- A step of a calculation, which reads the pieces that are left. -/
abbrev Calc := StateT (List Sign) Act

/-- The piece that comes next. -/
def current : Calc Sign := do
  match ← get with
  | [] => return .ending
  | s :: _ => return s

/-- Past a piece. -/
def pass : Calc Unit := modify (List.drop 1)

/-- The expression is at fault. -/
def fault (cs : Bytes) (message : String) : Calc α := do
  StateT.lift (complain ("arithmetic expression: " ++ message ++ ": \"" ++ shown cs ++ "\""))
  StateT.lift (leaveShell 2)

/-- The number that the text of a variable is. -/
def variableNumber (name : Bytes) : Calc Int := do
  let s : State ← StateT.lift (get : Act State)
  let text := ((s.parameter? name).getD []).dropWhile Calculation.isBlank
  let (negative, ds) :=
    match text with
    | '-' :: rest => (true, rest)
    | '+' :: rest => (false, rest)
    | _ => (false, text)
  let (n, rest) := numberAhead ds
  if rest.all Calculation.isBlank && (ds.head?.any Char.isDigit || text.isEmpty) then
    return if negative then -n else n
  else
    StateT.lift (complain ("Illegal number: " ++ shown ((s.parameter? name).getD [])))
    StateT.lift (leaveShell 2)

/-- The value of an operation. -/
def apply (cs : Bytes) (idle : Bool) (op : String) (a b : Int) : Calc Int := do
  if (op = "/" || op = "%") && b = 0 then
    if idle then return 0 else fault cs "division by zero"
  return operate op a b

mutual

/-- An expression that may be an assignment. -/
def assigned (cs : Bytes) (idle : Bool) : Nat → Calc Int
  | 0 => pure 0
  | fuel + 1 => do
    match ← get with
    | .name name :: .op op :: rest =>
      if op = "=" then
        set rest
        let value ← assigned cs idle fuel
        store name value
      else
        match assignments.lookup op with
        | some op =>
          set rest
          let value ← assigned cs idle fuel
          if idle then return value
          let old ← variableNumber name
          store name (← apply cs idle op old value)
        | none => choice cs idle fuel
    | _ => choice cs idle fuel
where
  /-- Sets a variable, unless no values are asked for. -/
  store (name : Bytes) (value : Int) : Calc Int := do
    if idle then return value
    let s : State ← StateT.lift (get : Act State)
    if s.isReadOnly name then
      StateT.lift (complain (shown name ++ ": is read only"))
      StateT.lift (leaveShell 2)
    StateT.lift (modify fun s => s.setText name (intText value))
    return value

/-- An expression that may be a choice. -/
def choice (cs : Bytes) (idle : Bool) : Nat → Calc Int
  | 0 => pure 0
  | fuel + 1 => do
    let c ← alternatives cs idle fuel
    if (← current) ≠ .op "?" then return c
    pass
    let a ← assigned cs (idle || c = 0) fuel
    if (← current) ≠ .op ":" then fault cs "expecting ':'"
    pass
    let b ← choice cs (idle || c ≠ 0) fuel
    return if c ≠ 0 then a else b

/-- Operands of which one must hold. -/
def alternatives (cs : Bytes) (idle : Bool) : Nat → Calc Int
  | 0 => pure 0
  | fuel + 1 => do
    let a ← conditions cs idle fuel
    if (← current) ≠ .op "||" then return a
    pass
    let b ← alternatives cs (idle || a ≠ 0) fuel
    return truth (a ≠ 0 || b ≠ 0)

/-- Operands that must all hold. -/
def conditions (cs : Bytes) (idle : Bool) : Nat → Calc Int
  | 0 => pure 0
  | fuel + 1 => do
    let a ← operands cs idle fuel operatorLevels
    if (← current) ≠ .op "&&" then return a
    pass
    let b ← conditions cs (idle || a = 0) fuel
    return truth (a ≠ 0 && b ≠ 0)

/-- Operands with operators of some strengths between them. -/
def operands (cs : Bytes) (idle : Bool) : Nat → List (List String) → Calc Int
  | 0, _ => pure 0
  | fuel + 1, [] => operand cs idle fuel
  | fuel + 1, level :: stronger => do
    let a ← operands cs idle fuel stronger
    moreOperands cs idle fuel level stronger a

/-- The other operands of some operators. -/
def moreOperands (cs : Bytes) (idle : Bool) : Nat → List String → List (List String) → Int → Calc Int
  | 0, _, _, a => pure a
  | fuel + 1, level, stronger, a => do
    match ← current with
    | .op op =>
      if !level.contains op then return a
      pass
      let b ← operands cs idle fuel stronger
      moreOperands cs idle fuel level stronger (← apply cs idle op a b)
    | _ => return a

/-- A number, a variable, an expression between parentheses, with operators before it. -/
def operand (cs : Bytes) (idle : Bool) : Nat → Calc Int
  | 0 => pure 0
  | fuel + 1 => do
    match ← current with
    | .number n =>
      pass
      return n
    | .name name =>
      pass
      if idle then return 0 else variableNumber name
    | .op "(" =>
      pass
      let value ← assigned cs idle fuel
      if (← current) ≠ .op ")" then fault cs "expecting ')'"
      pass
      return value
    | .op "+" =>
      pass
      operand cs idle fuel
    | .op "-" =>
      pass
      return wrap (-(← operand cs idle fuel))
    | .op "!" =>
      pass
      return truth ((← operand cs idle fuel) = 0)
    | .op "~" =>
      pass
      return -(← operand cs idle fuel) - 1
    | _ => fault cs "expecting primary"

end

end PlainCalculation

/-- The value of an expression of the plain shell. -/
def plainCalculate (cs : Bytes) : Act Int := do
  let (value, rest) ←
    (PlainCalculation.assigned cs false (100 + 40 * cs.length)).run
      (PlainCalculation.signs (cs.length + 1) cs)
  if rest.isEmpty then return value
  let (value, _) ← (PlainCalculation.fault cs "expecting EOF").run []
  return value

end Provision.Shell
