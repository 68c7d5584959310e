import Provision.Shell.Syntax

/-!
# Patterns

What some bytes may look like. A pattern is followed from one position of a text to all those where
what it stands for may end; positions that are reached twice count once, so that following takes no
more than polynomial time.
-/

namespace Provision.Shell

/-- What some bytes may look like. -/
inductive Pattern where
  /-- No bytes. -/
  | nothing
  | byte (c : Char)
  | any
  /-- A byte of some ranges, or of none of them. -/
  | oneOf (negated : Bool) (ranges : List (Char × Char))
  /-- Any number of any bytes. -/
  | anything
  | atStart
  | atEnd
  /-- Between a byte of a word and another one, in this order, the other one, or either. -/
  | wordStart
  | wordEnd
  | wordEdge
  | noWordEdge
  | both (a b : Pattern)
  | either (a b : Pattern)
  | repeated (least : Nat) (most : Option Nat) (p : Pattern)
  /-- What it stands for is remembered under a number. -/
  | captured (index : Nat) (p : Pattern)
  /-- The bytes remembered under a number. -/
  | again (index : Nat)
  /-- Whatever the pattern does not stand for. -/
  | except (p : Pattern)
  deriving Repr, Inhabited

/-- A position that was reached in a text, and where the remembered parts start and end, latest
first. -/
structure Found where
  position : Nat
  groups : List (Nat × Nat × Nat)
  deriving Repr, Inhabited

/-- A text that a pattern is followed in. -/
structure Subject where
  text : Array Char
  /-- Whether upper and lower case are the same. -/
  folded : Bool

namespace Pattern

/-- The ranges of bytes of a class, if it is one. -/
def classRanges? (name : Bytes) : Option (List (Char × Char)) :=
  match shown name with
  | "upper" => some [('A', 'Z')]
  | "lower" => some [('a', 'z')]
  | "digit" => some [('0', '9')]
  | "alpha" => some [('A', 'Z'), ('a', 'z')]
  | "alnum" => some [('0', '9'), ('A', 'Z'), ('a', 'z')]
  | "word" => some [('0', '9'), ('A', 'Z'), ('_', '_'), ('a', 'z')]
  | "space" => some [('\t', '\r'), (' ', ' ')]
  | "blank" => some [('\t', '\t'), (' ', ' ')]
  | "punct" => some [('!', '/'), (':', '@'), ('[', Char.ofNat 0x60), ('{', '~')]
  | "xdigit" => some [('0', '9'), ('A', 'F'), ('a', 'f')]
  | "cntrl" => some [('\x00', '\x1f'), ('\x7f', '\x7f')]
  | "print" => some [(' ', '~')]
  | "graph" => some [('!', '~')]
  | "ascii" => some [('\x00', '\x7f')]
  | _ => none

/-- The bytes of words. -/
def wordRanges : List (Char × Char) := [('0', '9'), ('A', 'Z'), ('_', '_'), ('a', 'z')]

/-- Whether a byte is in one of some ranges. -/
def inRanges (ranges : List (Char × Char)) (c : Char) : Bool :=
  ranges.any fun r => r.1 ≤ c && c ≤ r.2

/-- Patterns one after the other. -/
def sequence : List Pattern → Pattern
  | [] => nothing
  | [p] => p
  | p :: ps => both p (sequence ps)

/-- One of some patterns. -/
def alternatives : List Pattern → Pattern
  | [] => nothing
  | [p] => p
  | p :: ps => either p (alternatives ps)

/-- The pattern of some bytes. -/
def ofBytes (bytes : Bytes) : Pattern := sequence (bytes.map byte)

end Pattern

namespace Subject

/-- Whether two bytes are taken for the same. -/
def same (s : Subject) (a b : Char) : Bool := a = b || (s.folded && a.toLower = b.toLower)

/-- Whether a byte is in one of some ranges. -/
def inRanges (s : Subject) (ranges : List (Char × Char)) (c : Char) : Bool :=
  Pattern.inRanges ranges c ||
    (s.folded && (Pattern.inRanges ranges c.toLower || Pattern.inRanges ranges c.toUpper))

/-- Whether there is a byte of a word at a position. -/
def isWordAt (s : Subject) (i : Nat) : Bool := (s.text[i]?).any isNameChar
where
  /-- The bytes of words. -/
  isNameChar (c : Char) : Bool := c.isAlphanum || c = '_'

/-- Whether there is a byte of a word before a position. -/
def isWordBefore (s : Subject) (i : Nat) : Bool := 0 < i && s.isWordAt (i - 1)

/-- The first of those found at each position. -/
def distinct (s : Subject) (found : List Found) : List Found :=
  match found with
  | [] | [_] => found
  | _ => go (Array.replicate (s.text.size + 1) false) found
where
  /-- Those at positions that are not marked. -/
  go (seen : Array Bool) : List Found → List Found
    | [] => []
    | f :: fs =>
      if seen.getD f.position true then go seen fs
      else f :: go (seen.setIfInBounds f.position true) fs

/-- What is found by going so many rounds. -/
def goRounds (s : Subject) (step : Found → List Found) : Nat → List Found → List Found
  | 0, found => found
  | n + 1, found => goRounds s step n (s.distinct (found.flatMap step))

/-- What is found by going up to so many rounds, that of the later ones first; `seen` marks the
positions that were reached. -/
def goOn (step : Found → List Found) : Nat → Array Bool → List Found → List Found
  | 0, _, found => found
  | n + 1, seen, found =>
    let (next, seen) := (found.flatMap step).foldl (fun (next, seen) f =>
      if Array.getD seen f.position true then (next, seen)
      else (f :: next, seen.setIfInBounds f.position true)) ([], seen)
    if next.isEmpty then found else goOn step n seen next.reverse ++ found

/-- Whether the bytes from one position on are those between two others. -/
def repeats (s : Subject) (i first : Nat) : Nat → Bool
  | 0 => true
  | n + 1 =>
    match s.text[i + n]?, s.text[first + n]? with
    | some a, some b => s.same a b && repeats s i first n
    | _, _ => false

/-- Where a pattern may end that starts where something was found; what is preferred comes first. -/
def follow (s : Subject) : Pattern → Found → List Found
  | .nothing, f => [f]
  | .byte c, f =>
    match s.text[f.position]? with
    | some d => if s.same c d then [{ f with position := f.position + 1 }] else []
    | none => []
  | .any, f => if f.position < s.text.size then [{ f with position := f.position + 1 }] else []
  | .oneOf negated ranges, f =>
    match s.text[f.position]? with
    | some d =>
      if s.inRanges ranges d != negated then [{ f with position := f.position + 1 }] else []
    | none => []
  | .anything, f =>
    (List.range (s.text.size + 1 - f.position)).foldl
      (fun found i => { f with position := f.position + i } :: found) []
  | .atStart, f => if f.position = 0 then [f] else []
  | .atEnd, f => if f.position = s.text.size then [f] else []
  | .wordStart, f =>
    if !s.isWordBefore f.position && s.isWordAt f.position then [f] else []
  | .wordEnd, f => if s.isWordBefore f.position && !s.isWordAt f.position then [f] else []
  | .wordEdge, f => if s.isWordBefore f.position != s.isWordAt f.position then [f] else []
  | .noWordEdge, f => if s.isWordBefore f.position == s.isWordAt f.position then [f] else []
  | .both a b, f => s.distinct ((s.follow a f).flatMap (s.follow b))
  | .either a b, f => s.distinct (s.follow a f ++ s.follow b f)
  | .repeated least most p, f =>
    let found := s.goRounds (s.follow p) least [f]
    let seen := found.foldl (fun seen f => Array.setIfInBounds seen f.position true)
      (Array.replicate (s.text.size + 1) false)
    goOn (s.follow p) ((most.map (· - least)).getD (s.text.size + 1)) seen found
  | .captured index p, f =>
    (s.follow p f).map fun g => { g with groups := (index, f.position, g.position) :: g.groups }
  | .again index, f =>
    match f.groups.find? (·.1 = index) with
    | some (_, first, last) =>
      if s.repeats f.position first (last - first) then
        [{ f with position := f.position + (last - first) }]
      else []
    | none => []
  | .except p, f =>
    let found := (s.follow p f).map Found.position
    (List.range (s.text.size + 1 - f.position)).foldl (fun rest i =>
      if found.contains (f.position + i) then rest
      else { f with position := f.position + i } :: rest) []

/-- The furthest of what was found; of several the first. -/
def furthest (found : List Found) : Option Found :=
  found.foldl (fun best f =>
    match best with
    | none => some f
    | some b => if b.position < f.position then some f else best) none

/-- The first position from one on, where a pattern starts, and the furthest end of it. -/
def searchFrom (s : Subject) (p : Pattern) (start : Nat) : Nat → Option (Nat × Found)
  | 0 => none
  | n + 1 =>
    match furthest (s.follow p ⟨start, []⟩) with
    | some f => some (start, f)
    | none => searchFrom s p (start + 1) n

/-- The first place of a text where a pattern is found, from a position on. -/
def search (s : Subject) (p : Pattern) (start : Nat) : Option (Nat × Found) :=
  s.searchFrom p start (s.text.size + 1 - start)

/-- The bytes between two positions. -/
def between (s : Subject) (first last : Nat) : Bytes := (s.text.extract first last).toList

end Subject

namespace Pattern

/-- Whether a pattern stands for some bytes as a whole. -/
def fits (p : Pattern) (folded : Bool) (bytes : Bytes) : Bool :=
  let s : Subject := ⟨bytes.toArray, folded⟩
  (s.follow p ⟨0, []⟩).any (·.position = s.text.size)

/-- Some bytes without those at the start that a pattern stands for, the fewest or the most. -/
def dropStart (p : Pattern) (longest : Bool) (bytes : Bytes) : Bytes :=
  let s : Subject := ⟨bytes.toArray, false⟩
  let ends := (s.follow p ⟨0, []⟩).map Found.position
  match if longest then ends.max? else ends.min? with
  | some n => bytes.drop n
  | none => bytes

/-- The first or the last position from where on a pattern stands for the rest of a text. -/
def lastFit (p : Pattern) (s : Subject) : Nat → List Nat → Option Nat
  | _, [] => none
  | size, i :: is =>
    if (s.follow p ⟨i, []⟩).any (·.position = size) then some i else lastFit p s size is

/-- Some bytes without those at the end that a pattern stands for, the fewest or the most. -/
def dropEnd (p : Pattern) (longest : Bool) (bytes : Bytes) : Bytes :=
  let s : Subject := ⟨bytes.toArray, false⟩
  let starts := List.range (s.text.size + 1)
  match p.lastFit s s.text.size (if longest then starts else starts.reverse) with
  | some n => bytes.take n
  | none => bytes

end Pattern

end Provision.Shell
