import Provision.Shell.Assignment
import Provision.Shell.Builtin.Options
import Provision.Shell.Field

/-!
# Commands that read

`read`, which shares a line out among variables, and `mapfile`, which keeps lines in a list.
-/

namespace Provision.Shell

namespace ReadLine

/-- What ends a line. -/
structure Ending where
  delimiter : Char
  /-- How many bytes are read at most. -/
  most : Option Nat
  /-- Whether only their number ends them. -/
  exact : Bool
  /-- Whether a backslash stands for itself. -/
  raw : Bool

/-- A line: its bytes, how many were read, and whether its end was. -/
structure Line where
  glyphs : Glyphs
  count : Nat
  complete : Bool

/-- The line that some bytes start with; `left` bytes of it may follow. -/
def line (e : Ending) : Nat → Option Nat → Bytes → Line
  | 0, _, _ => ⟨[], 0, false⟩
  | _, some 0, _ => ⟨[], 0, true⟩
  | _ + 1, _, [] => ⟨[], 0, false⟩
  | fuel + 1, left, c :: rest =>
    let next := left.map (· - 1)
    if c = e.delimiter && !e.exact then ⟨[], 1, true⟩
    else if c = '\\' && !e.raw then
      match rest with
      | [] => ⟨[], 1, false⟩
      | '\n' :: rest =>
        let l := line e fuel left rest
        { l with count := l.count + 2 }
      | d :: rest =>
        let l := line e fuel next rest
        ⟨⟨d, true⟩ :: l.glyphs, l.count + 2, l.complete⟩
    else
      let l := line e fuel next rest
      ⟨if c = '\x00' then l.glyphs else ⟨c, false⟩ :: l.glyphs, l.count + 1, l.complete⟩

/-- Whether a byte separates fields. -/
def separates (s : Separators) (g : Glyph) : Bool :=
  !g.quoted && (s.blanks.contains g.byte || s.others.contains g.byte)

/-- Whether a byte is a blank that separates fields. -/
def isBlank (s : Separators) (g : Glyph) : Bool := !g.quoted && s.blanks.contains g.byte

/-- The first field, and what follows its separator. -/
def field (s : Separators) (gs : Glyphs) : Glyphs × Glyphs :=
  let first := gs.takeWhile (!separates s ·)
  let rest := (gs.drop first.length).dropWhile (isBlank s)
  match rest with
  | g :: after =>
    if separates s g then (first, after.dropWhile (isBlank s)) else (first, rest)
  | [] => (first, [])

/-- The fields for so many variables; the last one takes all that is left. -/
def fields (s : Separators) : Nat → Glyphs → List Bytes
  | 0, _ => []
  | 1, gs =>
    let (first, rest) := field s gs
    let last := if rest.isEmpty then first else (gs.reverse.dropWhile (isBlank s)).reverse
    [last.bytes]
  | n + 1, gs =>
    let (first, rest) := field s gs
    first.bytes :: fields s n rest

/-- All fields. -/
def allFields (s : Separators) : Nat → Glyphs → List Bytes
  | 0, _ => []
  | fuel + 1, gs =>
    if gs.isEmpty then []
    else
      let (first, rest) := field s gs
      first.bytes :: allFields s fuel rest

/-- Variables take on texts; tells whether all did. -/
def assignAll : List (Bytes × Bytes) → Act Bool
  | [] => pure true
  | (target, t) :: rest => do
    let (name, index) := Calculation.nameParts target
    let ok ←
      match (← get).dialect with
      | .bash => assign "" name index false t
      | .plain => assignText "" name t
    if ok then assignAll rest else return false

/-- Shares a line out among variables. -/
def share (names : List Bytes) (list : Option Bytes) (l : Line) (whole : Bool) : Act Unit := do
  let s ← get
  let seps := s.separators
  let done := if l.complete then 0 else 1
  let trimmed := l.glyphs.dropWhile (isBlank seps)
  match list, names with
  | some name, _ =>
    let words := allFields seps (trimmed.length + 1) trimmed
    let ok ← assignList "" name false (words.map fun w => ⟨none, false, w⟩)
    ends (if ok then done else 1)
  | none, [] =>
    let ok ← assignAll [("REPLY".toList, l.glyphs.bytes)]
    ends (if ok then done else 1)
  | none, name :: more =>
    let values :=
      if whole then l.glyphs.bytes :: more.map fun _ => []
      else fields seps names.length trimmed
    let ok ← assignAll ((name :: more).zip values)
    ends (if ok then done else 1)

end ReadLine

/-- How `read` is used. -/
def readForm : String :=
  "read [-ers] [-a array] [-d delim] [-i text] [-n nchars] [-N nchars] [-p prompt] " ++
    "[-t timeout] [-u fd] [name ...]"

/-- Reads a line from a descriptor and shares it out. -/
def readFrom (fd : Nat) (e : ReadLine.Ending) (names : List Bytes) (list : Option Bytes) :
    Act Unit := do
  match ← readable fd with
  | .error f =>
    if fd = 0 then fail 1 ("read: read error: 0: " ++ f.reason)
    else fail 1 ("read: " ++ toString fd ++ ": invalid file descriptor: " ++ f.reason)
  | .ok input =>
    let l := ReadLine.line e (input.length + 1) e.most input
    took fd l.count
    ReadLine.share names list l e.exact

/-- Reads a line into variables. -/
def read (args : List Bytes) : Act Unit := do
  match (← get).dialect with
  | .plain =>
    withOptions "read" "" "r" "p" args fun os names => do
      if names.isEmpty then failSpecial 2 "read: arg count"
      else readFrom 0 ⟨'\n', none, false, hasOption os 'r'⟩ names none
  | .bash =>
    withOptions "read" readForm "ers" "adinNptu" args fun os names => do
      let targets := names.map fun n => (Calculation.nameParts n).1
      match (names.zip targets).find? fun (_, t) => !isName t with
      | some (n, _) =>
        refuseName "read" n
        ends 1
        return
      | none => pure ()
      let number (c : Char) : Option (Option Nat) :=
        match optionValue os c with
        | none => some none
        | some w =>
          match wordNumber? w with
          | some n => if n < 0 then none else some (some n.toNat)
          | none => none
      let shownValue (c : Char) : String := shown ((optionValue os c).getD [])
      match number 'n', number 'N', number 'u' with
      | none, _, _ => fail 1 ("read: " ++ shownValue 'n' ++ ": invalid number")
      | _, none, _ => fail 1 ("read: " ++ shownValue 'N' ++ ": invalid number")
      | _, _, none =>
        fail 1 ("read: " ++ shownValue 'u' ++ ": invalid file descriptor specification")
      | some n, some exact, some fd =>
        match optionValue os 't' with
        | some t =>
          if !t.all fun c => c.isDigit || c = '.' then
            fail 1 ("read: " ++ shown t ++ ": invalid timeout specification")
            return
          if t = ['0'] then
            ends 0
            return
        | none => pure ()
        let delimiter :=
          match optionValue os 'd' with
          | some (c :: _) => c
          | some [] => '\x00'
          | none => '\n'
        let e : ReadLine.Ending :=
          ⟨delimiter, exact.or n, exact.isSome, hasOption os 'r'⟩
        readFrom (fd.getD 0) e names (optionValue os 'a')

/-- How `mapfile` is used. -/
def mapfileForm (name : String) : String :=
  name ++ " [-d delim] [-n count] [-O origin] [-s count] [-t] [-u fd] [-C callback] " ++
    "[-c quantum] [array]"

/-- The pieces of a text up to and with each delimiter. -/
def piecesOf (delimiter : Char) (cs : Bytes) : List Bytes :=
  go [] cs
where
  /-- The pieces after some bytes of the first one, latest first. -/
  go (begun : Bytes) : Bytes → List Bytes
    | [] => if begun.isEmpty then [] else [begun.reverse]
    | c :: rest => if c = delimiter then (c :: begun).reverse :: go [] rest else go (c :: begun) rest

/-- Keeps the lines of the input in a list. -/
def mapfile (command : String) (args : List Bytes) : Act Unit := do
  withOptions command (mapfileForm command) "t" "dnOsuCc" args fun os names => do
    let name := names.head?.getD "MAPFILE".toList
    if !isName name then
      refuseName command name
      ends 1
      return
    let number (c : Char) (standard : Nat) : Option Nat :=
      match optionValue os c with
      | none => some standard
      | some w => (wordNumber? w).bind fun n => if n < 0 then none else some n.toNat
    let shownValue (c : Char) : String := shown ((optionValue os c).getD [])
    match number 'n' 0, number 'O' 0, number 's' 0, number 'u' 0 with
    | none, _, _, _ => fail 1 (command ++ ": " ++ shownValue 'n' ++ ": invalid line count")
    | _, none, _, _ => fail 1 (command ++ ": " ++ shownValue 'O' ++ ": invalid array origin")
    | _, _, none, _ => fail 1 (command ++ ": " ++ shownValue 's' ++ ": invalid line count")
    | _, _, _, none =>
      fail 1 (command ++ ": " ++ shownValue 'u' ++ ": invalid file descriptor specification")
    | some most, some origin, some skipped, some fd =>
      let delimiter :=
        match optionValue os 'd' with
        | some (c :: _) => c
        | some [] => '\x00'
        | none => '\n'
      match ← readable fd with
      | .error f =>
        fail 1 (command ++ ": " ++ toString fd ++ ": invalid file descriptor: " ++ f.reason)
      | .ok input =>
        let pieces := piecesOf delimiter input
        let taken := if most = 0 then pieces else pieces.take (skipped + most)
        took fd ((taken.map List.length).foldl (· + ·) 0)
        let strip (p : Bytes) : Bytes :=
          if hasOption os 't' && p.getLast? = some delimiter then p.dropLast else p
        let texts := (taken.drop skipped).map fun p => (strip p).filter (· ≠ '\x00')
        let s ← get
        if s.isReadOnly name then
          complain (shown name ++ ": readonly variable")
          ends 1
          return
        let v := findIn s.frames (s.target name)
        let old := if hasOption os 'O' then ((v.map Variable.value).getD .unset).elements else []
        let attributes := (v.map Variable.attributes).getD .none
        let new := texts.zipIdx.foldl (fun es (t, i) => Value.insert (origin + i) t es) old
        set (s.put name ⟨.indexed new, attributes⟩)
        ends 0

end Provision.Shell
