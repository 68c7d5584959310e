import Provision.Shell.Syntax

/-!
# Braces

A word with braces stands for several words: one for each of the alternatives between commas, or for
each number or letter between two dots. Only what is written plainly counts.
-/

namespace Provision.Shell.Braces

/-- A byte that is written plainly, or a part of another kind. -/
abbrev Atom := Char ⊕ Part

/-- The parts of a word as atoms. -/
def atoms (parts : List Part) : List Atom :=
  parts.flatMap fun p =>
    match p with
    | .plain s => s.map Sum.inl
    | p => [Sum.inr p]

/-- Atoms as parts. -/
def parts : List Atom → List Part
  | [] => []
  | .inr p :: rest => p :: parts rest
  | .inl c :: rest =>
    match parts rest with
    | .plain s :: ps => .plain (c :: s) :: ps
    | ps => .plain [c] :: ps

/-- Whether two atoms are the same byte. -/
def isByte (c : Char) : Atom → Bool
  | .inl d => c = d
  | .inr _ => false

/-- The alternatives up to the closing brace, latest first, and what follows it; `depth` counts the
braces inside. -/
def split : Nat → List Atom → List (List Atom) → List Atom → Option (List (List Atom) × List Atom)
  | _, _, _, [] => none
  | depth, field, fields, a :: rest =>
    match a with
    | .inl '{' => split (depth + 1) (a :: field) fields rest
    | .inl '}' =>
      match depth with
      | 0 => some (field.reverse :: fields, rest)
      | d + 1 => split d (a :: field) fields rest
    | .inl ',' =>
      if depth = 0 then split depth [] (field.reverse :: fields) rest
      else split depth (a :: field) fields rest
    | _ => split depth (a :: field) fields rest

/-- The integer that a text is. -/
def integer? (cs : Bytes) : Option Int :=
  let (negative, ds) :=
    match cs with
    | '-' :: rest => (true, rest)
    | '+' :: rest => (false, rest)
    | _ => (false, cs)
  if ds.isEmpty || !ds.all Char.isDigit then none
  else
    let n : Nat := ds.foldl (fun n c => n * 10 + (c.toNat - 48)) 0
    some (if negative then -n else n)

/-- The texts between double dots. -/
def dotted : Bytes → List Bytes
  | [] => [[]]
  | '.' :: '.' :: rest => [] :: dotted rest
  | c :: rest =>
    match dotted rest with
    | [] => [[c]]
    | f :: fs => (c :: f) :: fs

/-- The numbers from one to another by steps. -/
def steps (first last step : Int) : List Int :=
  let step : Int := if step = 0 then 1 else step.natAbs
  let count := ((last - first).natAbs / step.natAbs) + 1
  (List.range count).map fun k : Nat =>
    if first ≤ last then first + step * (k : Int) else first - step * (k : Int)

/-- Whether the digits of a number start with a zero that tells a width. -/
def isPadded (cs : Bytes) : Bool :=
  match cs with
  | '-' :: '0' :: _ :: _ | '+' :: '0' :: _ :: _ => true
  | '0' :: _ :: _ => true
  | _ => false

/-- A number with zeros up to a width. -/
def padded (width : Nat) (n : Int) : Bytes :=
  let ds := (toString n.natAbs).toList
  let sign : Bytes := if n < 0 then ['-'] else []
  sign ++ List.replicate (width - sign.length - ds.length) '0' ++ ds

/-- The words of a range; none if it is no range. -/
def range? (cs : Bytes) : Option (List Bytes) := do
  let (a, b, step) ←
    match dotted cs with
    | [a, b] => some (a, b, (1 : Int))
    | [a, b, s] => (integer? s).map fun s => (a, b, s)
    | _ => none
  match integer? a, integer? b with
  | some m, some n =>
    let width := if isPadded a || isPadded b then max a.length b.length else 0
    some ((steps m n step).map (padded width))
  | none, none =>
    match a, b with
    | [x], [y] =>
      if x.isAlpha && y.isAlpha then
        some ((steps x.toNat y.toNat step).map fun n => [Char.ofNat n.toNat])
      else none
    | _, _ => none
  | _, _ => none

/-- The bytes of atoms that are all written plainly. -/
def bytes? (as : List Atom) : Option Bytes :=
  as.mapM fun a =>
    match a with
    | .inl c => some c
    | .inr _ => none

/-- The words that atoms stand for. -/
def expand : Nat → List Atom → List (List Atom)
  | 0, as => [as]
  | _ + 1, [] => [[]]
  | fuel + 1, a :: rest =>
    let asIs := (expand fuel rest).map (a :: ·)
    if !isByte '{' a then asIs
    else
      match split 0 [] [] rest with
      | none => asIs
      | some ([field], after) =>
        match (bytes? field).bind range? with
        | some words =>
          let tails := expand fuel after
          words.flatMap fun w => tails.map (w.map Sum.inl ++ ·)
        | none =>
          let inner := expand fuel field
          let tails := expand fuel after
          inner.flatMap fun i => tails.map fun t => a :: i ++ Sum.inl '}' :: t
      | some (fields, after) =>
        let tails := expand fuel after
        fields.reverse.flatMap fun field =>
          (expand fuel field).flatMap fun w => tails.map (w ++ ·)

/-- Whether some parts may have braces that stand for something. -/
def has (ps : List Part) : Bool :=
  ps.any fun p =>
    match p with
    | .plain s => s.contains '{'
    | _ => false

/-- The words that a word with braces stands for. -/
def words (ps : List Part) : List (List Part) :=
  if has ps then
    let as := atoms ps
    (expand (as.length + 1) as).map parts
  else [ps]

end Provision.Shell.Braces
