import Provision.Shell.Calendar
import Provision.Shell.Floating
import Provision.Shell.Quoting
import Provision.Shell.Word

/-!
# Formatted output

The escapes that `echo` may interpret, and the formats of `printf`: a format is used again until no
argument is left. An argument that is no number counts for as much of one as it starts with.
-/

namespace Provision.Shell

/-- The control that a letter names after a backslash. -/
def control? (c : Char) : Option Char :=
  match c with
  | 'a' => some '\x07'
  | 'b' => some '\x08'
  | 'e' => some '\x1b'
  | 'f' => some '\x0c'
  | 'n' => some '\n'
  | 'r' => some '\r'
  | 't' => some '\t'
  | 'v' => some '\x0b'
  | '\\' => some '\\'
  | _ => none

/-- The bytes that an escape of an argument stands for, from what follows the backslash, and what
follows; none if it ends all output. Numbers of base eight may follow a zero. -/
def argumentEscape (dialect : Dialect) (inEcho : Bool) (cs : Bytes) : Option (Bytes × Bytes) :=
  let bash := dialect = .bash
  match cs with
  | [] => some (['\\'], [])
  | c :: rest =>
    if c = 'c' then none
    else if c = '0' then
      match digitsAhead 8 3 rest with
      | some (n, rest) => some ([Char.ofNat (n % 256)], rest)
      | none => some (['\x00'], rest)
    else if '1' ≤ c && c ≤ '7' && !(bash && inEcho) then
      match digitsAhead 8 3 cs with
      | some (n, rest) => some ([Char.ofNat (n % 256)], rest)
      | none => some (['\\', c], rest)
    else if bash && c = 'x' then
      match digitsAhead 16 2 rest with
      | some (n, rest) => some ([Char.ofNat n], rest)
      | none => some (['\\', 'x'], rest)
    else if bash && (c = 'u' || c = 'U') then
      match digitsAhead 16 (if c = 'u' then 4 else 8) rest with
      | some (n, rest) => some (pointBytes n, rest)
      | none => some (['\\', c], rest)
    else if bash && c = 'E' then some (['\x1b'], rest)
    else if bash && !inEcho && (c = '"' || c = '\'' || c = '?') then some ([c], rest)
    else
      match control? c with
      | some x => some ([x], rest)
      | none => some (['\\', c], rest)

/-- An argument with its escapes interpreted, and whether one of them ends all output. -/
def unescapeArgument (dialect : Dialect) (inEcho : Bool) : Nat → Bytes → Bytes × Bool
  | 0, cs => (cs, false)
  | _ + 1, [] => ([], false)
  | fuel + 1, '\\' :: cs =>
    match argumentEscape dialect inEcho cs with
    | none => ([], true)
    | some (start, rest) =>
      let (tail, stop) := unescapeArgument dialect inEcho fuel rest
      (start ++ tail, stop)
  | fuel + 1, c :: rest =>
    let (tail, stop) := unescapeArgument dialect inEcho fuel rest
    (c :: tail, stop)

/-- How a value is laid out. -/
structure Layout where
  left : Bool
  zeros : Bool
  plus : Bool
  blank : Bool
  alternate : Bool
  width : Nat
  precision : Option Nat

namespace Layout

/-- A text padded to a width. -/
def pad (l : Layout) (text : Bytes) : Bytes :=
  let gap := List.replicate (l.width - text.length) ' '
  if l.left then text ++ gap else gap ++ text

/-- Digits with a sign, padded. -/
def padNumber (l : Layout) (zeros : Bool) (sign digits : Bytes) : Bytes :=
  if l.zeros && zeros && !l.left then
    sign ++ List.replicate (l.width - sign.length - digits.length) '0' ++ digits
  else l.pad (sign ++ digits)

/-- The sign of a number. -/
def sign (l : Layout) (negative : Bool) : Bytes :=
  if negative then ['-'] else if l.plus then ['+'] else if l.blank then [' '] else []

/-- An integer in a base. -/
def integer (l : Layout) (sign : Bytes) (base : Nat) (upper : Bool) (n : Nat) : Bytes :=
  let ds := if n = 0 && l.precision = some 0 then [] else Nat.toDigits base n
  let ds := List.replicate ((l.precision.getD 0) - ds.length) '0' ++ ds
  let (sign, ds) : Bytes × Bytes :=
    if l.alternate && base = 16 && n ≠ 0 then (sign ++ ['0', 'x'], ds)
    else if l.alternate && base = 8 && ds.head? ≠ some '0' then (sign, '0' :: ds)
    else (sign, ds)
  let text := l.padNumber l.precision.isNone sign ds
  if upper then text.map Char.toUpper else text

/-- A floating number under a letter, in a format of so many bits. -/
def floating (l : Layout) (bits lead : Nat) (c : Char) (x : Floating) : Bytes :=
  let upper := c.isUpper
  let text :=
    match x with
    | .infinite negative => l.padNumber false (l.sign negative) "inf".toList
    | .notANumber negative => l.padNumber false (l.sign negative) "nan".toList
    | .finite negative a b =>
      let digits :=
        match c.toLower with
        | 'e' => Floating.scientific a b (l.precision.getD 6) l.alternate
        | 'g' => Floating.general a b (l.precision.getD 6) l.alternate
        | 'a' => Floating.hexadecimal bits lead a b
        | _ => Floating.fixed a b (l.precision.getD 6) l.alternate
      l.padNumber true (l.sign negative) digits
  if upper then text.map Char.toUpper else text

end Layout

namespace Printf

/-- What is left and what came of a format. -/
structure Progress where
  args : List Bytes
  /-- The pieces written, latest first. -/
  out : List Bytes
  /-- The diagnostics, latest first. -/
  complaints : List String
  failed : Bool
  consumed : Bool
  /-- What is stored in variables. -/
  stored : List (Bytes × Nat)

/-- Why a format is left at once. -/
inductive Stop where
  /-- By an escape. -/
  | done
  /-- By a fault. -/
  | refused (message : String)

/-- A step of formatting. -/
abbrev Step := StateT Progress (Except (Stop × Progress))

/-- Some bytes are written. -/
def put (bytes : Bytes) : Step Unit := modify fun p => { p with out := bytes :: p.out }

/-- The format is left at once. -/
def stop (why : Stop) : Step α := do
  let p ← get
  throw (why, p)

/-- The next argument, if there is one. -/
def next : Step (Option Bytes) := do
  let p ← get
  match p.args with
  | [] => return none
  | a :: rest =>
    set { p with args := rest, consumed := true }
    return some a

/-- An argument is not what it should be. -/
def objectTo (message : String) : Step Unit := modify fun p =>
  { p with complaints := message :: p.complaints, failed := true }

/-- The words about an argument that is no number, or not as a whole. -/
def objection (dialect : Dialect) (arg : Bytes) (some? : Bool) : String :=
  match dialect, some? with
  | .bash, _ => shown arg ++ ": invalid number"
  | .plain, true => shown arg ++ ": not completely converted"
  | .plain, false => shown arg ++ ": expected numeric value"

/-- The integer that a text starts with, and what follows: base sixteen after `0x`, base eight after
`0`. -/
def integerAhead (cs : Bytes) : Option (Int × Bytes) :=
  let cs := cs.dropWhile fun c => c = ' ' || ('\t' ≤ c && c ≤ '\r')
  let (negative, ds) :=
    match cs with
    | '-' :: rest => (true, rest)
    | '+' :: rest => (false, rest)
    | _ => (false, cs)
  let many := ds.length + 1
  let r :=
    match ds with
    | '0' :: x :: d :: rest =>
      if (x = 'x' || x = 'X') && (digitIn 16 d).isSome then digitsAhead 16 many (d :: rest)
      else digitsAhead 8 many ds
    | '0' :: _ => digitsAhead 8 many ds
    | _ => digitsAhead 10 many ds
  r.map fun (n, rest) => (if negative then -(n : Int) else n, rest)

/-- The integer that an argument is, between two bounds. -/
def integerArgument (dialect : Dialect) (low high : Int) : Step Int := do
  match ← next with
  | none => return 0
  | some [] => return 0
  | some (q :: rest) =>
    if q = '\'' || q = '"' then
      return ((rest.head?.map Char.toNat).getD 0 : Nat)
    else
      let arg := q :: rest
      match integerAhead arg with
      | none =>
        objectTo (objection dialect arg false)
        return 0
      | some (n, rest) =>
        if !rest.isEmpty then objectTo (objection dialect arg true)
        if n < low || high < n then
          match dialect with
          | .bash => modify fun p => { p with
              complaints := ("warning: " ++ shown arg ++ ": Numerical result out of range") ::
                p.complaints }
          | .plain => objectTo (shown arg ++ ": Numerical result out of range")
        return max low (min high n)

/-- How many bits floating numbers have, and how many of them stand before the point. -/
def floatingBits : Dialect → Nat × Nat
  | .bash => (64, 4)
  | .plain => (53, 1)

/-- The floating number that an argument is. -/
def floatingArgument (dialect : Dialect) : Step Floating := do
  match ← next with
  | none => return .finite false 0 1
  | some [] => return .finite false 0 1
  | some (q :: rest) =>
    if q = '\'' || q = '"' then
      return .finite false ((rest.head?.map Char.toNat).getD 0) 1
    else
      let arg := q :: rest
      match Floating.read (floatingBits dialect).1 arg with
      | none =>
        objectTo (objection dialect arg false)
        return .finite false 0 1
      | some (x, rest) =>
        if !rest.isEmpty then objectTo (objection dialect arg true)
        return x

/-- The flags of a directive, and what follows. -/
def flags (l : Layout) : Bytes → Layout × Bytes
  | '-' :: rest => flags { l with left := true } rest
  | '0' :: rest => flags { l with zeros := true } rest
  | '+' :: rest => flags { l with plus := true } rest
  | ' ' :: rest => flags { l with blank := true } rest
  | '#' :: rest => flags { l with alternate := true } rest
  | '\'' :: rest => flags l rest
  | rest => (l, rest)

/-- The smallest and greatest integers of 64 bits. -/
def smallest : Int := -0x8000000000000000

/-- The greatest integer of 64 bits. -/
def greatest : Int := 0x8000000000000000 - 1

/-- A count of a directive, which may be the next argument, and what follows. -/
def count (dialect : Dialect) (cs : Bytes) : Step (Option Int × Bytes) := do
  match cs with
  | '*' :: rest => return (some (← integerArgument dialect smallest greatest), rest)
  | _ =>
    match digitsAhead 10 (cs.length + 1) cs with
    | some (n, rest) => return (some n, rest)
    | none => return (none, cs)

/-- The instant that an argument asks for. -/
def instantArgument (now : Int) : Step Int := do
  match ← next with
  | none => return now
  | some arg =>
    match integerAhead arg with
    | some (n, _) => return if n = -1 || n = -2 then now else n
    | none =>
      objectTo (objection .bash arg false)
      return 0

/-- Writes an argument as a directive asks. -/
def convert (dialect : Dialect) (now : Int) (l : Layout) (raw : Bytes) (c : Char) (rest : Bytes) :
    Step Bytes := do
  let cut (t : Bytes) : Bytes :=
    match l.precision with
    | some p => t.take p
    | none => t
  let unsigned (base : Nat) (upper : Bool) : Step Unit := do
    let n ← integerArgument dialect smallest (0x10000000000000000 - 1)
    put (l.integer [] base upper (n % 0x10000000000000000).toNat)
  let refuse : Step Unit :=
    match dialect with
    | .bash => stop (.refused ("\x60" ++ String.singleton c ++ "': invalid format character"))
    | .plain => stop (.refused (shown raw ++ ": invalid directive"))
  match dialect, c with
  | _, 's' =>
    put (l.pad (cut ((← next).getD [])))
    return rest
  | _, 'c' =>
    let arg := (← next).getD []
    let byte :=
      match dialect, arg with
      | .bash, [] => ['\x00']
      | _, arg => arg.take 1
    put (l.pad byte)
    return rest
  | _, 'b' =>
    let arg := (← next).getD []
    let (t, ended) := unescapeArgument dialect false (arg.length + 1) arg
    put (l.pad (cut t))
    if ended then stop .done
    return rest
  | .bash, 'q' =>
    let arg ← next
    put (l.pad (cut (Quoting.word (arg.getD []))))
    return rest
  | .bash, 'Q' =>
    let arg ← next
    put (l.pad (Quoting.word (cut (arg.getD []))))
    return rest
  | .bash, 'n' =>
    match ← next with
    | some name =>
      modify fun p => { p with
        stored := (name, (p.out.map List.length).foldl (· + ·) 0) :: p.stored }
    | none => pure ()
    return rest
  | .bash, '(' =>
    let format := rest.takeWhile (· ≠ ')')
    match rest.drop format.length with
    | ')' :: 'T' :: after =>
      let instant ← instantArgument now
      let format := if format.isEmpty then "%X".toList else format
      put (l.pad (cut ((Moment.ofSeconds instant).text format)))
      return after
    | _ =>
      refuse
      return rest
  | _, 'd' | _, 'i' =>
    let n ← integerArgument dialect smallest greatest
    put (l.integer (l.sign (n < 0)) 10 false n.natAbs)
    return rest
  | _, 'u' =>
    unsigned 10 false
    return rest
  | _, 'o' =>
    unsigned 8 false
    return rest
  | _, 'x' =>
    unsigned 16 false
    return rest
  | _, 'X' =>
    unsigned 16 true
    return rest
  | _, 'e' | _, 'E' | _, 'f' | _, 'F' | _, 'g' | _, 'G' | _, 'a' | _, 'A' =>
    let x ← floatingArgument dialect
    let (bits, lead) := floatingBits dialect
    put (l.floating bits lead c x)
    return rest
  | _, _ =>
    refuse
    return rest

/-- Whether a letter tells the size of a number. -/
def isSize (c : Char) : Bool := ['h', 'j', 'l', 'L', 't', 'z'].contains c

/-- The format used once. -/
def once (dialect : Dialect) (now : Int) : Nat → Bytes → Step Unit
  | 0, _ | _ + 1, [] => pure ()
  | fuel + 1, '%' :: '%' :: rest => do
    put ['%']
    once dialect now fuel rest
  | fuel + 1, '%' :: rest => do
    let (l, cs) := flags ⟨false, false, false, false, false, 0, none⟩ rest
    let (width, cs) ← count dialect cs
    let l := { l with width := (width.getD 0).natAbs, left := l.left || width.any (· < 0) }
    let (l, cs) ←
      match cs with
      | '.' :: cs => do
        let (p, cs) ← count dialect cs
        let p := p.getD 0
        pure ({ l with precision := if p < 0 then none else some p.toNat }, cs)
      | cs => pure (l, cs)
    let cs := if dialect = .bash then cs.dropWhile isSize else cs
    match cs with
    | [] =>
      match dialect with
      | .bash =>
        stop (.refused ("\x60%" ++ shown rest ++ "': missing format character"))
      | .plain => stop (.refused "missing format character")
    | c :: after =>
      let raw := '%' :: rest.take (rest.length - after.length)
      let after ← convert dialect now l raw c after
      once dialect now fuel after
  | fuel + 1, '\\' :: rest => do
    match rest with
    | [] =>
      put ['\\']
    | c :: after =>
      let bash := dialect = .bash
      match digitsAhead 8 3 rest with
      | some (n, after) =>
        put [Char.ofNat (n % 256)]
        once dialect now fuel after
      | none =>
        if bash && c = 'x' then
          match digitsAhead 16 2 after with
          | some (n, after) =>
            put [Char.ofNat n]
            once dialect now fuel after
          | none =>
            modify fun p => { p with complaints := "missing hex digit for \\x" :: p.complaints }
            put ['\\', 'x']
            once dialect now fuel after
        else if bash && (c = 'u' || c = 'U') then
          match digitsAhead 16 (if c = 'u' then 4 else 8) after with
          | some (n, after) =>
            put (pointBytes n)
            once dialect now fuel after
          | none =>
            modify fun p => { p with
              complaints := ("missing unicode digit for \\" ++ String.singleton c) ::
                p.complaints }
            put ['\\', c]
            once dialect now fuel after
        else if bash && (c = '"' || c = '\'' || c = '?') then
          put [c]
          once dialect now fuel after
        else if bash && c = 'E' then
          put ['\x1b']
          once dialect now fuel after
        else
          put (match control? c with
            | some x => [x]
            | none => ['\\', c])
          once dialect now fuel after
  | fuel + 1, c :: rest => do
    let run := (c :: rest).takeWhile fun c => c ≠ '%' && c ≠ '\\'
    put run
    once dialect now fuel ((c :: rest).drop run.length)

/-- The format used until no argument is left. -/
def all (dialect : Dialect) (now : Int) (format : Bytes) : Nat → Step Unit
  | 0 => pure ()
  | fuel + 1 => do
    modify fun p => { p with consumed := false }
    once dialect now (format.length + 1) format
    let p ← get
    if p.consumed && !p.args.isEmpty then all dialect now format fuel

/-- What comes of a format and some arguments at an instant. -/
def run (dialect : Dialect) (now : Int) (format : Bytes) (args : List Bytes) : Progress :=
  match (all dialect now format (args.length + 1)).run ⟨args, [], [], false, false, []⟩ with
  | .ok ((), p) => p
  | .error (.done, p) => p
  | .error (.refused message, p) =>
    { p with complaints := message :: p.complaints, failed := true }

end Printf

end Provision.Shell
