import Provision.Shell.Pattern
import Provision.Shell.Tool.Options

/-!
# Characters in place of others

`tr` writes what it reads with some characters in place of others, without some, or without those
that repeat the one before.
-/

namespace Provision.Shell.Tool

/-- What a set of characters is made of. -/
inductive SetPart where
  | byte (c : Char)
  | range (first last : Char)
  | named (name : Bytes)
  | same (c : Char)
  /-- A character repeated so often, or to the end of the other set. -/
  | repeated (c : Char) (count : Option Nat)

namespace SetPart

/-- The character behind a backslash, and what follows. -/
def escape : Bytes → Char × Bytes
  | [] => ('\\', [])
  | c :: rest =>
    let isOctal (c : Char) : Bool := '0' ≤ c && c ≤ '7'
    if isOctal c then
      let two := (c :: rest.take 1).takeWhile isOctal
      let value (ds : Bytes) : Nat := ds.foldl (fun n d => n * 8 + (d.toNat - 48)) 0
      let three := (c :: rest.take 2).takeWhile isOctal
      if value three < 256 then (Char.ofNat (value three), rest.drop (three.length - 1))
      else (Char.ofNat (value two), rest.drop (two.length - 1))
    else
      let known := [('a', '\x07'), ('b', '\x08'), ('f', '\x0c'), ('n', '\n'), ('r', '\r'),
        ('t', '\t'), ('v', '\x0b')]
      ((known.lookup c).getD c, rest)

/-- The characters of a text; those behind a backslash stand for themselves. -/
def glyphs : Nat → Bytes → List (Char × Bool)
  | 0, _ => []
  | _ + 1, [] => []
  | fuel + 1, '\\' :: rest =>
    let (c, rest) := escape rest
    (c, true) :: glyphs fuel rest
  | fuel + 1, c :: rest => (c, false) :: glyphs fuel rest

/-- The count of a repeated character; a zero in front makes it octal. -/
def count? (digits : Bytes) : Option (Option Nat) :=
  if !digits.all Char.isDigit then none
  else
    let n :=
      if digits.head? = some '0' then digits.foldl (fun n d => n * 8 + (d.toNat - 48)) 0
      else State.digitsNumber digits
    some (if n = 0 then none else some n)

/-- What stands between brackets with marks, and what follows. -/
def bracketed? (mark : Char) (gs : List (Char × Bool)) : Option (Bytes × List (Char × Bool)) :=
  let rec find (begun : Bytes) : List (Char × Bool) → Option (Bytes × List (Char × Bool))
    | (c, q) :: (d, r) :: rest =>
      if c = mark && d = ']' && !q && !r then some (begun.reverse, rest)
      else find (c :: begun) ((d, r) :: rest)
    | _ => none
  find [] gs

/-- The parts of a set, or what is wrong with it. -/
def ofGlyphs : Nat → List (Char × Bool) → Except String (List SetPart)
  | 0, _ => .ok []
  | _ + 1, [] => .ok []
  | fuel + 1, g :: rest =>
    let single : Except String (List SetPart) :=
      match rest with
      | ('-', false) :: (last, _) :: after =>
        if last < g.1 then
          .error ("range-endpoints of '" ++ shownByte g.1 ++ "-" ++ shownByte last ++
            "' are in reverse collating sequence order")
        else (ofGlyphs fuel after).map (.range g.1 last :: ·)
      | _ => (ofGlyphs fuel rest).map (.byte g.1 :: ·)
    match g, rest with
    | ('[', false), (':', false) :: after =>
      match bracketed? ':' after with
      | some (name, after) =>
        if name.isEmpty then .error "missing character class name '[::]'"
        else if (Pattern.classRanges? name).isNone then
          .error ("invalid character class " ++ quotedText name)
        else (ofGlyphs fuel after).map (.named name :: ·)
      | none => single
    | ('[', false), ('=', false) :: after =>
      match bracketed? '=' after with
      | some ([c], after) => (ofGlyphs fuel after).map (.same c :: ·)
      | some ([], _) => .error "missing equivalence class character '[==]'"
      | some (name, _) =>
        .error (shown name ++ ": equivalence class operand must be a single character")
      | none => single
    | ('[', false), (c, _) :: ('*', false) :: after =>
      let digits := (after.takeWhile fun g => g.1 ≠ ']').map Prod.fst
      match count? digits, after.drop digits.length with
      | some n, _ :: after => (ofGlyphs fuel after).map (.repeated c n :: ·)
      | none, _ :: _ =>
        .error ("invalid repeat count " ++ quotedText digits ++ " in [c*n] construct")
      | _, [] => single
    | _, _ => single
where
  /-- A byte as it is named in a diagnostic. -/
  shownByte (c : Char) : String :=
    if c = '\\' then "\\\\"
    else if ' ' ≤ c && c ≤ '~' then String.singleton c
    else
      let n := c.toNat
      "\\" ++ String.ofList [Char.ofNat (48 + n / 64), Char.ofNat (48 + n / 8 % 8),
        Char.ofNat (48 + n % 8)]

/-- The characters of a class in their order. -/
def classBytes (name : Bytes) : Bytes :=
  let ranges := (Pattern.classRanges? name).getD []
  (List.range 256).filterMap fun n =>
    let c := Char.ofNat n
    if Pattern.inRanges ranges c then some c else none

/-- The characters of a part that is not open. -/
def bytes : SetPart → Bytes
  | byte c | same c => [c]
  | range first last =>
    (List.range (last.toNat + 1 - first.toNat)).map fun i => Char.ofNat (first.toNat + i)
  | named name => classBytes name
  | repeated c count => List.replicate (count.getD 0) c

/-- Whether a part is a class of letters of one case. -/
def isCase : SetPart → Bool
  | named name => name = "upper".toList || name = "lower".toList
  | _ => false

/-- Whether a part is another class. -/
def isOtherClass : SetPart → Bool
  | named name => !(SetPart.named name).isCase
  | _ => false

end SetPart

/-- The characters of a set; an open part fills it up to a length. -/
def setBytes (length : Nat) (parts : List SetPart) : Bytes :=
  let closed := (parts.map fun p => p.bytes.length).foldl (· + ·) 0
  parts.flatMap fun p =>
    match p with
    | .repeated c none => List.replicate (length - closed) c
    | p => p.bytes

/-- The pairs of characters that stand for each other, and whether letters of a case stand where they
may. -/
def casePairs : List SetPart → List SetPart → Bool
  | parts, others =>
    let starts (parts : List SetPart) : List Nat :=
      let rec go : Nat → List SetPart → List Nat
        | _, [] => []
        | n, p :: rest =>
          if p.isCase then n :: go (n + p.bytes.length) rest else go (n + p.bytes.length) rest
      go 0 parts
    let mine := starts parts
    (starts others).all mine.contains

/-- Characters without those that repeat the one before and are in a set. -/
def squeezed (inSet : Char → Bool) (t : Bytes) : Bytes :=
  let step (out : Bytes) (c : Char) : Bytes :=
    match out with
    | d :: _ => if c = d && inSet c then out else c :: out
    | [] => [c]
  (t.foldl step []).reverse

/-- A test of characters by a table. -/
def memberTable (set : Bytes) : Char → Bool :=
  let table := set.foldl (fun (a : Array Bool) c => a.setIfInBounds c.toNat true)
    (Array.replicate 256 false)
  fun c => (table[c.toNat]?).getD false

/-- What is written for each character. -/
def replacementTable (old new : Bytes) : Char → Char :=
  let table := (old.zip new).foldl (fun (a : Array Char) (c, d) => a.setIfInBounds c.toNat d)
    ((List.range 256).map Char.ofNat).toArray
  fun c => (table[c.toNat]?).getD c

/-- The characters that are not in a set. -/
def complementOf (set : Bytes) : Bytes :=
  let has := memberTable set
  ((List.range 256).map Char.ofNat).filter fun c => !has c

/-- What is done to each text, or what is wrong with the sets. -/
def replacing (complement delete squeeze truncate : Bool) (sets : List (List SetPart)) :
    Except String (Bytes → Bytes) := do
  let one := (sets[0]?).getD []
  let two := (sets[1]?).getD []
  let isOpen (p : SetPart) : Bool :=
    match p with
    | .repeated _ none => true
    | _ => false
  if one.any isOpen then .error "the [c*] repeat construct may not appear in string1"
  let first := setBytes 0 one
  let first := if complement then complementOf first else first
  let hasTwo := sets.length > 1
  if delete then
    let has := memberTable first
    let kept (t : Bytes) : Bytes := t.filter fun c => !has c
    if squeeze then
      let second := memberTable (setBytes 0 two)
      return fun t => squeezed second (kept t)
    return kept
  else if !hasTwo then
    let has := memberTable first
    return squeezed has
  else
    if two.countP isOpen > 1 then
      .error "only one [c*] repeat construct may appear in string2"
    if two.any SetPart.isOtherClass then
      .error ("when translating, the only character classes that may appear in\n" ++
        "string2 are 'upper' and 'lower'")
    if two.any fun p => match p with
        | .same _ => true
        | _ => false then
      .error "[=c=] expressions may not appear in string2 when translating"
    let second := setBytes first.length two
    if second.isEmpty && !truncate && !first.isEmpty then
      .error "when not truncating set1, string2 must be non-empty"
    if !casePairs one two && !complement then
      .error "misaligned [:upper:] and/or [:lower:] construct"
    if complement && one.any SetPart.isOtherClass && (second.eraseDups).length > 1 then
      .error ("when translating with complemented character classes,\n" ++
        "string2 must map all characters in the domain to one")
    let filled :=
      if truncate then second
      else
        match second.getLast? with
        | some c => second ++ List.replicate (first.length - second.length) c
        | none => second
    let map := replacementTable first filled
    if squeeze then
      let has := memberTable second
      return fun t => squeezed has (t.map map)
    return fun t => t.map map

/-- Writes characters in place of others. -/
def tr : Tool := fun who args =>
  withWords who 1
    [flag 'c' "complement", flag 'C' "", flag 'd' "delete", flag 's' "squeeze-repeats",
      flag 't' "truncate-set1"] true args fun w => do
    let complement := w.has "c" || w.has "C"
    let delete := w.has "d"
    let squeeze := w.has "s"
    let least := if delete = squeeze then 2 else 1
    let most := if delete && !squeeze then 1 else 2
    let seeAlso (text note : String) : Act Unit := do
      complain who text
      if note ≠ "" then sayLine note
      seeHelp who 1
    match w.operands with
    | [] => missesOperand who 1
    | operands =>
      let last := (operands.getLast?).getD []
      if operands.length < least then
        seeAlso ("missing operand after " ++ quotedText last)
          (if squeeze then "Two strings must be given when both deleting and squeezing repeats."
            else "Two strings must be given when translating.")
      else if most < operands.length then
        seeAlso ("extra operand " ++ quotedText ((operands[most]?).getD []))
          (if most = 1 && operands.length = 2 then
            "Only one string may be given when deleting without squeezing repeats." else "")
      else
        let parts := operands.mapM fun t => SetPart.ofGlyphs (t.length + 1)
          (SetPart.glyphs (t.length + 1) t)
        match parts.bind (replacing complement delete squeeze (w.has "t")) with
        | .error e => fail who 1 e
        | .ok change =>
          match ← contentOf ['-'] with
          | .error f => fail who 1 ("read error: " ++ f.reason)
          | .ok t => output who (change t) 0

end Provision.Shell.Tool
