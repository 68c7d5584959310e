import Provision.Shell.Field
import Provision.Shell.Pattern

/-!
# Patterns of words

The patterns that words are: an asterisk stands for any bytes, a question mark for one, brackets for
one of a set, and groups, where they are known, for alternatives.
-/

namespace Provision.Shell

namespace Glob

/-- The name of a class up to its closing marks, and what follows. -/
def className? (mark : Char) (gs : Glyphs) : Option (Bytes × Glyphs) :=
  let name := gs.takeWhile fun g => g.byte ≠ mark && g.byte ≠ ']'
  match gs.drop name.length with
  | a :: b :: rest =>
    if a.byte = mark && b.byte = ']' then some (Glyphs.bytes name, rest) else none
  | _ => none

/-- The byte that a member of a set starts with, and what follows. -/
def member? : Glyphs → Option (Char × Glyphs)
  | [] => none
  | g :: rest =>
    if g = ⟨'\\', false⟩ then
      match rest with
      | h :: rest => some (h.byte, rest)
      | [] => none
    else if g = ⟨'[', false⟩ then
      match rest with
      | h :: after =>
        if h.byte = '.' || h.byte = '=' then
          match className? h.byte after with
          | some ([c], rest) => some (c, rest)
          | _ => some ('[', rest)
        else some ('[', rest)
      | [] => some ('[', rest)
    else some (g.byte, rest)

/-- The ranges of a set up to its closing bracket, and what follows; `first` if it may still start
with the bracket itself. -/
def members : Nat → Bool → Glyphs → Option (List (Char × Char) × Glyphs)
  | 0, _, _ => none
  | _ + 1, _, [] => none
  | fuel + 1, first, g :: rest =>
    if g = ⟨']', false⟩ && !first then some ([], rest)
    else
      match g, rest with
      | ⟨'[', false⟩, ⟨':', false⟩ :: after =>
        match className? ':' after with
        | some (name, rest) =>
          (members fuel false rest).map fun (rs, r) =>
            ((Pattern.classRanges? name).getD [] ++ rs, r)
        | none => single fuel (g :: rest)
      | _, _ => single fuel (g :: rest)
where
  /-- A member that is a byte or a range. -/
  single (fuel : Nat) (gs : Glyphs) : Option (List (Char × Char) × Glyphs) := do
    let (a, rest) ← member? gs
    match rest with
    | ⟨'-', false⟩ :: after =>
      match after with
      | ⟨']', false⟩ :: _ =>
        (members fuel false rest).map fun (rs, r) => ((a, a) :: rs, r)
      | _ =>
        let (b, rest) ← member? after
        (members fuel false rest).map fun (rs, r) => ((a, b) :: rs, r)
    | _ => (members fuel false rest).map fun (rs, r) => ((a, a) :: rs, r)

/-- The set after an opening bracket, and what follows. -/
def set? (gs : Glyphs) : Option (Pattern × Glyphs) :=
  let (negated, gs) :=
    match gs with
    | ⟨'!', false⟩ :: rest | ⟨'^', false⟩ :: rest => (true, rest)
    | _ => (false, gs)
  (members (gs.length + 1) true gs).map fun (rs, rest) => (.oneOf negated rs, rest)

/-- What a group of alternatives stands for after its mark. -/
def group (mark : Char) (p : Pattern) : Pattern :=
  match mark with
  | '?' => .repeated 0 (some 1) p
  | '*' => .repeated 0 none p
  | '+' => .repeated 1 none p
  | '!' => .except p
  | _ => p

mutual

/-- The pieces of a pattern up to its end, or that of an alternative. -/
def pieces (extended inGroup : Bool) : Nat → Glyphs → List Pattern × Glyphs
  | 0, gs => ([], gs)
  | _ + 1, [] => ([], [])
  | fuel + 1, g :: rest =>
    let next (p : Pattern) (rest : Glyphs) : List Pattern × Glyphs :=
      let (ps, rest) := pieces extended inGroup fuel rest
      (p :: ps, rest)
    if g.quoted then next (.byte g.byte) rest
    else if inGroup && (g.byte = '|' || g.byte = ')') then ([], g :: rest)
    else
      match extended && ['?', '*', '+', '@', '!'].contains g.byte, rest with
      | true, ⟨'(', false⟩ :: inner =>
        match choices extended fuel inner with
        | some (ps, rest) => next (group g.byte (Pattern.alternatives ps)) rest
        | none => next (single g.byte) rest
      | _, _ =>
        match g.byte, rest with
        | '\\', h :: rest => next (.byte h.byte) rest
        | '[', rest =>
          match set? rest with
          | some (p, rest) => next p rest
          | none => next (.byte '[') rest
        | c, rest => next (single c) rest

/-- The alternatives of a group up to its end; none if it has none. -/
def choices (extended : Bool) : Nat → Glyphs → Option (List Pattern × Glyphs)
  | 0, _ => none
  | fuel + 1, gs =>
    let (ps, rest) := pieces extended true fuel gs
    match rest with
    | ⟨'|', _⟩ :: rest =>
      (choices extended fuel rest).map fun (others, rest) => (Pattern.sequence ps :: others, rest)
    | _ :: rest => some ([Pattern.sequence ps], rest)
    | [] => none

/-- What a byte stands for by itself. -/
def single (c : Char) : Pattern :=
  match c with
  | '*' => .anything
  | '?' => .any
  | c => .byte c

end

/-- Whether a byte has a meaning in patterns. -/
def isActive (g : Glyph) : Bool := !g.quoted && (g.byte = '*' || g.byte = '?' || g.byte = '[')

/-- Whether some bytes are a pattern of more than themselves. -/
def isActiveIn (extended : Bool) : Glyphs → Bool
  | [] => false
  | [g] => !g.quoted && (g.byte = '*' || g.byte = '?')
  | g :: h :: rest =>
    (!g.quoted && (g.byte = '*' || g.byte = '?')) ||
      (g = ⟨'[', false⟩ && (set? (h :: rest)).isSome) ||
      (extended && !g.quoted && ['+', '@', '!'].contains g.byte && h = ⟨'(', false⟩) ||
      isActiveIn extended (h :: rest)

end Glob

/-- The pattern that a word is. -/
def glob (extended : Bool) (gs : Glyphs) : Pattern :=
  Pattern.sequence (Glob.pieces extended false (2 * gs.length + 2) gs).1

end Provision.Shell
