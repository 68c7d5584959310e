import Provision.Shell.Field
import Provision.Shell.Pattern

/-!
# Regular expressions

The two ways to write regular expressions. In the extended one operators are operators by
themselves, in the basic one behind a backslash, but for the asterisk and what stands for single
bytes and places.
-/

namespace Provision.Shell

/-- Why a text is no regular expression. -/
inductive RegexFault where
  | unmatchedBracket
  | unmatchedOpen
  | unmatchedClose
  | unmatchedBrace
  | badCount
  | badClass
  | badRange
  | nothingRepeated
  | trailingBackslash
  | badReference
  deriving DecidableEq, Repr

/-- The words for a fault. -/
def RegexFault.message : RegexFault → String
  | unmatchedBracket => "Unmatched [, [^, [:, [., or [="
  | unmatchedOpen => "Unmatched ( or \\("
  | unmatchedClose => "Unmatched ) or \\)"
  | unmatchedBrace => "Unmatched \\\x7b"
  | badCount => "Invalid content of \\\x7b\\\x7d"
  | badClass => "Invalid character class name"
  | badRange => "Invalid range end"
  | nothingRepeated => "Invalid preceding regular expression"
  | trailingBackslash => "Trailing backslash"
  | badReference => "Invalid back reference"

namespace Regex

/-- The way expressions are written. -/
structure Style where
  /-- Whether operators are operators by themselves. -/
  extended : Bool
  /-- Whether a closing parenthesis without an opening one stands for itself. -/
  closesAlone : Bool
  /-- Whether a repetition of nothing is passed over. -/
  passesRepetition : Bool

/-- The basic way. -/
def basic : Style := ⟨false, false, false⟩

/-- The extended way. -/
def extended : Style := ⟨true, false, false⟩

/-- The way of conditions of the shell. -/
def conditional : Style := ⟨true, true, false⟩

/-- The extended way of a program that refuses little. -/
def lenient : Style := ⟨true, true, true⟩

/-- How an expression is read: its style, the number of the next group, and the groups that are
closed. -/
structure Reading extends Style where
  next : Nat
  closed : List Nat

/-- A reader of expressions. -/
abbrev Read := StateT Reading (Except RegexFault)

/-- The name between the marks of a class, and what follows. -/
def className? (mark : Char) (gs : Glyphs) : Option (Bytes × Glyphs) :=
  let name := gs.takeWhile fun g => g.byte ≠ mark
  match gs.drop name.length with
  | _ :: ⟨']', _⟩ :: rest => some (Glyphs.bytes name, rest)
  | _ => none

/-- The byte that an end of a range is, and what follows. -/
def endpoint : Glyphs → Except RegexFault (Char × Glyphs)
  | ⟨'[', _⟩ :: ⟨m, _⟩ :: rest =>
    if m = '.' || m = '=' then
      match className? m rest with
      | some ([c], rest) => .ok (c, rest)
      | some _ => .error .badClass
      | none => .error .unmatchedBracket
    else .ok ('[', ⟨m, false⟩ :: rest)
  | g :: rest => .ok (g.byte, rest)
  | [] => .error .unmatchedBracket

/-- The ranges of a set up to its closing bracket, and what follows. -/
def members : Nat → Bool → Glyphs → Except RegexFault (List (Char × Char) × Glyphs)
  | 0, _, _ | _ + 1, _, [] => .error .unmatchedBracket
  | fuel + 1, first, g :: rest => do
    if g = ⟨']', false⟩ && !first then return ([], rest)
    match g.byte, rest with
    | '[', ⟨':', _⟩ :: after =>
      match className? ':' after with
      | none => throw .unmatchedBracket
      | some (name, rest) =>
        match Pattern.classRanges? name with
        | none => throw .badClass
        | some ranges =>
          let (rs, rest) ← members fuel false rest
          return (ranges ++ rs, rest)
    | _, _ =>
      let (a, rest) ← endpoint (g :: rest)
      match rest with
      | ⟨'-', _⟩ :: after =>
        match after with
        | ⟨']', false⟩ :: _ =>
          let (rs, rest) ← members fuel false rest
          return ((a, a) :: rs, rest)
        | _ =>
          let (b, rest) ← endpoint after
          if b < a then throw .badRange
          let (rs, rest) ← members fuel false rest
          return ((a, b) :: rs, rest)
      | _ =>
        let (rs, rest) ← members fuel false rest
        return ((a, a) :: rs, rest)

/-- The set after an opening bracket, and what follows. -/
def bracket (gs : Glyphs) : Except RegexFault (Pattern × Glyphs) := do
  let (negated, gs) :=
    match gs with
    | ⟨'^', _⟩ :: rest => (true, rest)
    | _ => (false, gs)
  let (rs, rest) ← members (gs.length + 1) true gs
  return (.oneOf negated rs, rest)

/-- A count, and what follows. -/
def number (gs : Glyphs) : Option Nat × Glyphs :=
  let digits := (gs.takeWhile fun g => g.byte.isDigit)
  (if digits.isEmpty then none
    else some (digits.foldl (fun n g => n * 10 + (g.byte.toNat - 48)) 0), gs.drop digits.length)

/-- The counts between braces, and what follows the closing one. -/
def counts (extended : Bool) (gs : Glyphs) : Option (Nat × Option Nat × Glyphs) :=
  let (least, rest) := number gs
  let (most, rest) : Option Nat × Glyphs :=
    match rest with
    | ⟨',', _⟩ :: rest => number rest
    | _ => (least, rest)
  let comma := ((gs.drop (gs.takeWhile fun g => g.byte.isDigit).length).head?.map Glyph.byte) =
    some ','
  if least.isNone && !comma then none
  else
    match extended, rest with
    | true, ⟨'}', _⟩ :: rest => some (least.getD 0, most, rest)
    | false, ⟨'\\', _⟩ :: ⟨'}', _⟩ :: rest => some (least.getD 0, most, rest)
    | _, _ => none

/-- What a letter behind a backslash stands for. -/
def escape? (c : Char) : Option Pattern :=
  match c with
  | 'w' => some (.oneOf false Pattern.wordRanges)
  | 'W' => some (.oneOf true Pattern.wordRanges)
  | 's' => some (.oneOf false [('\t', '\r'), (' ', ' ')])
  | 'S' => some (.oneOf true [('\t', '\r'), (' ', ' ')])
  | '<' => some .wordStart
  | '>' => some .wordEnd
  | 'b' => some .wordEdge
  | 'B' => some .noWordEdge
  | '\'' => some .atEnd
  | c => if c.toNat = 0x60 then some .atStart else none

/-- Whether an alternative or a group ends here. -/
def endsHere (extended inGroup : Bool) : Glyphs → Bool
  | [] => true
  | ⟨'\\', false⟩ :: ⟨c, _⟩ :: _ => !extended && (c = '|' || (c = ')' && inGroup))
  | ⟨c, false⟩ :: _ => extended && (c = '|' || (c = ')' && inGroup))
  | _ => false

/-- The repetitions after a pattern. -/
def repetitions : Nat → Pattern → Glyphs → Read (Pattern × Glyphs)
  | 0, p, gs => pure (p, gs)
  | fuel + 1, p, gs => do
    let extended := (← get).extended
    let star (least : Nat) (most : Option Nat) (rest : Glyphs) : Read (Pattern × Glyphs) :=
      repetitions fuel (.repeated least most p) rest
    match extended, gs with
    | _, ⟨'*', false⟩ :: rest => star 0 none rest
    | true, ⟨'+', false⟩ :: rest | false, ⟨'\\', false⟩ :: ⟨'+', _⟩ :: rest => star 1 none rest
    | true, ⟨'?', false⟩ :: rest | false, ⟨'\\', false⟩ :: ⟨'?', _⟩ :: rest =>
      star 0 (some 1) rest
    | true, ⟨'{', false⟩ :: rest =>
      match counts true rest with
      | some (least, most, rest) =>
        if most.any (· < least) then throw .badCount
        star least most rest
      | none => return (p, gs)
    | false, ⟨'\\', false⟩ :: ⟨'{', _⟩ :: rest =>
      match counts false rest with
      | some (least, most, rest) =>
        if most.any (· < least) then throw .badCount
        star least most rest
      | none =>
        if rest.any (·.byte = '}') then throw .badCount else throw .unmatchedBrace
    | _, _ => return (p, gs)

mutual

/-- An expression with its alternatives. -/
def expression : Nat → Bool → Glyphs → Read (Pattern × Glyphs)
  | 0, _, gs => pure (.nothing, gs)
  | fuel + 1, inGroup, gs => do
    let extended := (← get).extended
    let (p, rest) ← branch fuel inGroup true gs
    match extended, rest with
    | true, ⟨'|', false⟩ :: rest | false, ⟨'\\', false⟩ :: ⟨'|', _⟩ :: rest =>
      let (q, rest) ← expression fuel inGroup rest
      return (.either p q, rest)
    | _, _ => return (p, rest)

/-- The pieces of an alternative one after the other; `first` before the first one. -/
def branch : Nat → Bool → Bool → Glyphs → Read (Pattern × Glyphs)
  | 0, _, _, gs => pure (.nothing, gs)
  | fuel + 1, inGroup, first, gs => do
    let extended := (← get).extended
    if endsHere extended inGroup gs then return (.nothing, gs)
    let (p, rest) ← atom fuel inGroup first gs
    let (p, rest) ←
      match p with
      | .atStart => pure (p, rest)
      | _ => repetitions (rest.length + 1) p rest
    let start :=
      match p with
      | .atStart => true
      | _ => false
    let (q, rest) ← branch fuel inGroup (first && start && !extended) rest
    match q with
    | .nothing => return (p, rest)
    | _ => return (.both p q, rest)

/-- A single piece without its repetitions. -/
def atom : Nat → Bool → Bool → Glyphs → Read (Pattern × Glyphs)
  | 0, _, _, gs => pure (.nothing, gs)
  | fuel + 1, inGroup, first, gs => do
    let extended := (← get).extended
    match gs with
    | [] => return (.nothing, [])
    | ⟨c, true⟩ :: rest => return (.byte c, rest)
    | ⟨'\\', false⟩ :: rest =>
      match rest with
      | [] => throw .trailingBackslash
      | ⟨c, _⟩ :: rest =>
        if !extended && c = '(' then group fuel rest
        else if !extended && c = ')' then throw .unmatchedClose
        else if !extended && c = '{' then
          if first then return (.byte '{', rest) else throw .nothingRepeated
        else if '1' ≤ c && c ≤ '9' then
          let index := c.toNat - 48
          if (← get).closed.contains index then return (.again index, rest)
          else throw .badReference
        else
          match escape? c with
          | some p => return (p, rest)
          | none => return (.byte c, rest)
    | ⟨c, false⟩ :: rest =>
      match c with
      | '.' => return (.any, rest)
      | '[' =>
        match bracket rest with
        | .ok r => return r
        | .error f => throw f
      | '^' => if extended || first then return (.atStart, rest) else return (.byte '^', rest)
      | '$' =>
        if extended || endsHere false inGroup rest then return (.atEnd, rest)
        else return (.byte '$', rest)
      | '(' => if extended then group fuel rest else return (.byte '(', rest)
      | ')' =>
        if extended && !inGroup && !(← get).closesAlone then throw .unmatchedClose
        else return (.byte ')', rest)
      | '*' | '+' | '?' =>
        if extended then
          if (← get).passesRepetition then return (.nothing, rest) else throw .nothingRepeated
        else return (.byte c, rest)
      | '{' =>
        if extended && (counts true rest).isSome then throw .nothingRepeated
        else return (.byte c, rest)
      | c => return (.byte c, rest)

/-- A group after its opening mark. -/
def group : Nat → Glyphs → Read (Pattern × Glyphs)
  | 0, gs => pure (.nothing, gs)
  | fuel + 1, gs => do
    let r ← get
    set { r with next := r.next + 1 }
    let (p, rest) ← expression fuel true gs
    modify fun s => { s with closed := r.next :: s.closed }
    match r.extended, rest with
    | true, ⟨')', false⟩ :: rest => return (.captured r.next p, rest)
    | false, ⟨'\\', false⟩ :: ⟨')', _⟩ :: rest => return (.captured r.next p, rest)
    | _, _ => throw .unmatchedOpen

end

end Regex

/-- The pattern of a regular expression, and how many groups it has. -/
def regexOf (style : Regex.Style) (gs : Glyphs) : Except RegexFault (Pattern × Nat) := do
  let ((p, _), r) ← (Regex.expression (4 * gs.length + 4) false gs).run ⟨style, 1, []⟩
  return (p, r.next - 1)

end Provision.Shell
