import Provision.Shell.Printf
import Provision.Shell.Regex
import Provision.Shell.Tool.Order

/-!
# Programs about numbers

Numbers in a row, the values of expressions, and the prime factors of numbers.
-/

namespace Provision.Shell.Tool

/-! ## Numbers in a row -/

/-- A decimal number: an integer divided by a power of ten. -/
structure Decimal where
  units : Int
  places : Nat

/-- The units of a decimal number with so many places. -/
def Decimal.scaled (d : Decimal) (places : Nat) : Int :=
  d.units * (Nat.pow 10 (places - d.places) : Nat)

/-- An operand of a row: its value, how wide it is written, and its places if they are all that
matters. -/
structure RowOperand where
  value : Decimal
  width : Nat
  places : Option Nat
  /-- Whether there is no end in its direction. -/
  infinite : Bool

/-- The operand that a text is. -/
def rowOperand? (t : Bytes) : Option RowOperand :=
  let t := t.dropWhile fun c => c = ' ' || c = '+'
  let negative : Bool := t.head? = some '-'
  let body := if negative then t.drop 1 else t
  let signed (n : Nat) : Int := if negative then -(n : Int) else n
  if ["inf", "infinity"].contains (shown (body.map Char.toLower)) then
    some ⟨⟨signed 1, 0⟩, t.length, none, true⟩
  else
    let whole := body.takeWhile Char.isDigit
    let rest := body.drop whole.length
    let part := if rest.head? = some '.' then (rest.drop 1).takeWhile Char.isDigit else []
    let hasPoint : Bool := rest.head? = some '.'
    let rest := if hasPoint then rest.drop (1 + part.length) else rest
    if whole.isEmpty && part.isEmpty then none
    else
      let units := State.digitsNumber (whole ++ part)
      match rest with
      | [] =>
        let width := t.length - (if hasPoint && part.isEmpty then 1 else 0) +
          (if whole.isEmpty then 1 else 0)
        some ⟨⟨signed units, part.length⟩, width, some part.length, false⟩
      | e :: rest =>
        if e = 'e' || e = 'E' then
          let minus : Bool := rest.head? = some '-'
          let digits := if minus || rest.head? = some '+' then rest.drop 1 else rest
          match number? digits with
          | none => none
          | some n =>
            let places : Int := (part.length : Int) + (if minus then (n : Int) else -(n : Int))
            let value : Decimal :=
              if places < 0 then ⟨signed (units * Nat.pow 10 (-places).toNat), 0⟩
              else ⟨signed units, places.toNat⟩
            let digits := (toString units).length
            let width := (if negative then 1 else 0) + (if places ≤ 0 then digits + (-places).toNat
              else max (digits + 1) (places.toNat + 2))
            some ⟨value, width, some places.toNat, false⟩
        else if body.take 2 = ['0', 'x'] then
          match Floating.read 64 t with
          | some (.finite n a 1, []) =>
            some ⟨⟨if n then -(a : Int) else a, 0⟩, t.length, none, false⟩
          | _ => none
        else none

/-- A number in units of a power of ten, with a width that zeros fill. -/
def decimalText (places width : Nat) (units : Int) : Bytes :=
  let sign : Bytes := if units < 0 then ['-'] else []
  let ds := (toString units.natAbs).toList
  let ds := List.replicate (places + 1 - ds.length) '0' ++ ds
  let whole := ds.take (ds.length - places)
  let body := if places = 0 then whole else whole ++ '.' :: ds.drop (ds.length - places)
  sign ++ List.replicate (width - body.length - sign.length) '0' ++ body

/-- A format with one directive: what stands before it, its layout and letter, and what stands behind
it; or what is wrong with it. -/
def rowFormat (t : Bytes) : Except String (Bytes × Layout × Char × Bytes) :=
  let rec plain : Nat → Bytes → Bytes × Bytes
    | 0, t => ([], t)
    | _ + 1, [] => ([], [])
    | fuel + 1, '%' :: '%' :: rest =>
      let (t, rest) := plain fuel rest
      ('%' :: t, rest)
    | _ + 1, '%' :: rest => ([], '%' :: rest)
    | fuel + 1, c :: rest =>
      let (t, rest) := plain fuel rest
      (c :: t, rest)
  let (start, rest) := plain (t.length + 1) t
  match rest with
  | [] => .error ("format " ++ quotedText t ++ " has no % directive")
  | _ :: rest =>
    let (l, rest) := Printf.flags ⟨false, false, false, false, false, 0, none⟩ rest
    let width := rest.takeWhile Char.isDigit
    let rest := rest.drop width.length
    let l := { l with width := State.digitsNumber width }
    let (l, rest) :=
      match rest with
      | '.' :: rest =>
        let digits := rest.takeWhile Char.isDigit
        ({ l with precision := some (State.digitsNumber digits) }, rest.drop digits.length)
      | rest => (l, rest)
    let rest := if rest.head? = some 'L' then rest.drop 1 else rest
    match rest with
    | [] => .error ("format " ++ quotedText t ++ " ends in %")
    | c :: rest =>
      if !"efgaEFGA".toList.contains c then
        .error ("format " ++ quotedText t ++ " has unknown %" ++ String.singleton c ++ " directive")
      else
        let (ending, more) := plain (rest.length + 1) rest
        if more.isEmpty then .ok (start, l, c, ending)
        else .error ("format " ++ quotedText t ++ " has too many % directives")

/-- How many numbers are written of a row that has more. -/
def longestRow : Nat := 300000

/-- Writes numbers in a row. -/
def seq : Tool := fun who args =>
  let isNumber (w : Bytes) : Bool :=
    match w with
    | '-' :: c :: _ => c = '.' || c.isDigit
    | _ => false
  let rec guarded (before : Bytes) : List Bytes → List Bytes
    | [] => []
    | w :: ws =>
      let isArgument : Bool := before = ['-', 's'] || before = ['-', 'f']
      if isArgument then w :: guarded [] ws
      else if isNumber w then ['-', '-'] :: w :: ws
      else if w.head? = some '-' then w :: guarded w ws
      else w :: ws
  withWords who 1
    [valued 'f' "format", valued 's' "separator", flag 'w' "equal-width"] true (guarded [] args)
    fun w => do
    let separator := (w.value? "s").getD ['\n']
    let format ←
      match w.value? "f" with
      | none => pure none
      | some t =>
        match rowFormat t with
        | .ok f => pure (some f)
        | .error e =>
          complain who e
          leaveShell 1
    match w.operands with
    | [] => missesOperand who 1
    | _ :: _ :: _ :: extra :: _ => extraOperand who 1 extra
    | operands =>
      let read (t : Bytes) : Act RowOperand := do
        match rowOperand? t with
        | some r => return r
        | none =>
          misused who 1 ("invalid floating point argument: " ++ quotedText t)
          throw .exit
      let one : RowOperand := ⟨⟨1, 0⟩, 1, some 0, false⟩
      let (first, step, last) ←
        match operands with
        | [a] => do pure (one, one, ← read a)
        | [a, b] => do
          let a ← read a
          pure (a, one, ← read b)
        | a :: b :: c :: _ => do
          let a ← read a
          let b ← read b
          if b.value.units = 0 then
            misused who 1 ("invalid Zero increment value: " ++ quotedText (operands[1]?.getD []))
            throw .exit
          pure (a, b, ← read c)
        | [] => pure (one, one, one)
      if format.isSome && w.has "w" then
        misused who 1 "format string may not be specified when printing equal width strings"
      else
        let exact := max first.value.places (max step.value.places last.value.places)
        let start := first.value.scaled exact
        let increment := step.value.scaled exact
        let stop := last.value.scaled exact
        let rising : Bool := 0 < increment
        let count :=
          if last.infinite then if rising = decide (0 < last.value.units) then longestRow + 1 else 0
          else if rising then (if stop < start then 0 else ((stop - start) / increment).toNat + 1)
          else if start < stop then 0
          else ((start - stop) / (-increment)).toNat + 1
        let places := max (first.places.getD 0) (step.places.getD 0)
        let width :=
          if !w.has "w" then 0
          else
            let own := first.places.getD 0
            let a := first.width + (places - own) + (if own = 0 && 0 < places then 1 else 0)
            let p := last.places.getD 0
            let b : Int := (last.width : Int) + places - p -
              (if 0 < p && places = 0 then 1 else 0) + (if p = 0 && 0 < places then 1 else 0)
            max a b.toNat
        let text (i : Nat) : Bytes :=
          let units := start + increment * i
          match format with
          | none => decimalText places width (units.tdiv (Nat.pow 10 (exact - places) : Nat))
          | some (before, l, c, after) =>
            before ++ l.floating 64 4 c (.finite (units < 0) units.natAbs (Nat.pow 10 exact)) ++
              after
        let shownCount := min count longestRow
        if 0 < shownCount then
          let rec fill (i : Nat) (rest : Bytes) : Bytes :=
            match i with
            | 0 => rest
            | i + 1 => fill i (text i ++ (if i + 1 = shownCount then ['\n'] else separator) ++ rest)
          put who (fill shownCount [])
        if longestRow < count then throw .stuck
        ends 0

/-! ## Expressions -/

/-- Where the reading of an expression is: the words that are left and the last one that was read. -/
structure Expressing where
  rest : List Bytes
  before : Bytes

/-- A step of an expression. -/
abbrev Expressed := StateT Expressing (Except String)

namespace Expr

/-- The integer that a value is. -/
def integer? (t : Bytes) : Option Int :=
  match t with
  | '-' :: ds => if !ds.isEmpty && ds.all Char.isDigit then some (-(State.digitsNumber ds : Int)) else none
  | ds => if !ds.isEmpty && ds.all Char.isDigit then some (State.digitsNumber ds : Int) else none

/-- An integer as a value. -/
def ofInt (n : Int) : Bytes := (toString n).toList

/-- Whether a value is none or zero. -/
def isNull (t : Bytes) : Bool := t.isEmpty || integer? t = some 0

/-- The next word, if it is one of some. -/
def next? (words : List String) : Expressed (Option String) := do
  let s ← get
  match s.rest with
  | w :: rest =>
    if words.contains (shown w) then
      set { s with rest, before := w }
      return some (shown w)
    else return none
  | [] => return none

/-- The next word. -/
def take : Expressed Bytes := do
  let s ← get
  match s.rest with
  | w :: rest =>
    set { s with rest, before := w }
    return w
  | [] => throw ("syntax error: missing argument after " ++ quotedText s.before)

/-- What a text matches from its start on: the first group, or how many bytes. -/
def matched (t re : Bytes) : Except String Bytes := do
  let gs : Glyphs := re.map fun c => ⟨c, false⟩
  let gs := if re.head? = some '^' then gs.drop 1 else gs
  match regexOf Regex.basic gs with
  | .error f => .error f.message
  | .ok (p, groups) =>
    let s : Subject := ⟨t.toArray, false⟩
    match Subject.furthest (s.follow p ⟨0, []⟩) with
    | none => .ok (if 0 < groups then [] else ['0'])
    | some f =>
      if 0 < groups then
        match f.groups.lookup 1 with
        | some (a, b) => .ok (s.between a b)
        | none => .ok []
      else .ok (ofInt f.position)

/-- A part of a text, from a place that is counted from one. -/
def substring (t pos len : Bytes) : Bytes :=
  match integer? pos, integer? len with
  | some p, some n => if p ≤ 0 || n ≤ 0 then [] else (t.drop (p.toNat - 1)).take n.toNat
  | _, _ => []

/-- The first place of a text where one of some bytes is. -/
def firstOf (t set : Bytes) : Nat := (t.findIdx? set.contains).elim 0 (· + 1)

/-- Compares two values. -/
def compares (op : String) (a b : Bytes) : Bool :=
  let order :=
    match integer? a, integer? b with
    | some x, some y => Ord.compare x y
    | _, _ => compareBytes a b
  match op with
  | "<" => order = .lt
  | "<=" => order ≠ .gt
  | "=" | "==" => order = .eq
  | "!=" => order ≠ .eq
  | ">=" => order ≠ .lt
  | _ => order = .gt

/-- Calculates with two values. -/
def calculates (op : String) (a b : Bytes) : Except String Bytes :=
  match integer? a, integer? b with
  | some x, some y =>
    match op with
    | "+" => .ok (ofInt (x + y))
    | "-" => .ok (ofInt (x - y))
    | "*" => .ok (ofInt (x * y))
    | op =>
      if y = 0 then .error "division by zero"
      else .ok (ofInt (if op = "/" then x.tdiv y else x.tmod y))
  | _, _ => .error "non-integer argument"

/-- The operators of each level, the loosest first. -/
def operators : List (List String) :=
  [["|"], ["&"], ["<=", "<", "==", "=", "!=", ">=", ">"], ["+", "-"], ["*", "/", "%"], [":"]]

/-- What an operator makes of two values; nothing fails in what is not `live`. -/
def combined (live : Bool) (op : String) (a b : Bytes) : Except String Bytes :=
  match op with
  | "|" => .ok (if isNull a then if isNull b then ['0'] else b else a)
  | "&" => .ok (if isNull a || isNull b then ['0'] else a)
  | ":" => if live then matched a b else .ok a
  | "+" | "-" | "*" | "/" | "%" => if live then calculates op a b else .ok a
  | op => .ok (if compares op a b then ['1'] else ['0'])

/-- Whether what stands behind an operator matters. -/
def staysLive (op : String) (a : Bytes) : Bool :=
  match op with
  | "|" => isNull a
  | "&" => !isNull a
  | _ => true

mutual

/-- The value of an expression whose operators are not looser than a level. -/
def value : Nat → Nat → Bool → Expressed Bytes
  | 0, _, _ => return []
  | fuel + 1, level, live => do
    if operators.length ≤ level then named fuel live
    else more fuel level live (← value fuel (level + 1) live)

/-- The value of what goes on behind a value. -/
def more : Nat → Nat → Bool → Bytes → Expressed Bytes
  | 0, _, _, a => return a
  | fuel + 1, level, live, a => do
    match ← next? ((operators[level]?).getD []) with
    | none => return a
    | some op =>
      let b ← value fuel (level + 1) (live && staysLive op a)
      more fuel level live (← combined live op a b)

/-- A value with a name in front. -/
def named : Nat → Bool → Expressed Bytes
  | 0, _ => return []
  | fuel + 1, live => do
    match ← next? ["+", "length", "match", "index", "substr"] with
    | some "+" => take
    | some "length" =>
      let t ← named fuel live
      return ofInt t.length
    | some "match" =>
      let t ← named fuel live
      let re ← named fuel live
      combined live ":" t re
    | some "index" =>
      let t ← named fuel live
      let set ← named fuel live
      return ofInt (firstOf t set)
    | some _ =>
      let t ← named fuel live
      let pos ← named fuel live
      let len ← named fuel live
      return substring t pos len
    | none => single fuel live

/-- A single value. -/
def single : Nat → Bool → Expressed Bytes
  | 0, _ => return []
  | fuel + 1, live => do
    let w ← take
    if w = ['('] then
      let v ← value fuel 0 live
      let s ← get
      match s.rest with
      | [] => throw ("syntax error: expecting ')' after " ++ quotedText s.before)
      | c :: rest =>
        if c = [')'] then
          set { s with rest, before := c }
          return v
        else throw ("syntax error: expecting ')' instead of " ++ quotedText c)
    else if w = [')'] then throw "syntax error: unexpected ')'"
    else return w

end

end Expr

/-- Writes the value of an expression. -/
def expr : Tool := fun who args => do
  let args := if args.head? = some ['-', '-'] then args.drop 1 else args
  match args with
  | [] => missesOperand who 2
  | args =>
    match (Expr.value (12 * args.length + 12) 0 true).run ⟨args, []⟩ with
    | .error e => fail who 2 e
    | .ok (v, s) =>
      match s.rest with
      | w :: _ => fail who 2 ("syntax error: unexpected argument " ++ quotedText w)
      | [] => output who (v ++ ['\n']) (if Expr.isNull v then 1 else 0)

/-! ## Factors -/

/-- The prime factors of a number from a divisor on. -/
def factorsFrom : Nat → Nat → Nat → List Nat
  | 0, _, n => [n]
  | fuel + 1, d, n =>
    if n < 2 then []
    else if n < d * d then [n]
    else if n % d = 0 then d :: factorsFrom fuel d (n / d)
    else factorsFrom fuel (if d = 2 then 3 else d + 2) n

/-- Writes the prime factors of numbers. -/
def factor : Tool := fun who args =>
  withWords who 1 [flag 'h' "exponents"] false args fun w => do
    let words ←
      if w.operands.isEmpty then do
        match ← contentOf ['-'] with
        | .ok t =>
          pure ((pieces ' ' false (t.map fun c => if c = '\n' || c = '\t' then ' ' else c)).filter
            (!·.isEmpty))
        | .error _ => pure []
      else pure w.operands
    let results ← words.mapM fun t => do
      let digits := if t.head? = some '+' then t.drop 1 else t
      match number? digits with
      | none =>
        complain who (quotedText t ++ " is not a valid positive integer")
        return false
      | some n =>
        let factors := factorsFrom 2000000 2 n
        put who ((toString n).toList ++ ':' :: factors.flatMap (fun f => ' ' :: (toString f).toList) ++
          ['\n'])
        return true
    ends (statusOf (results.all id))

end Provision.Shell.Tool
