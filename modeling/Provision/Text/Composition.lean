import Provision.Text.Combining
import Provision.Text.Decomposition

/-!
# Composed text

The same text can be written with characters taken apart or put together. `compose` gives the one
form that is put together as far as it can be: all characters are taken apart, the marks between two
others are brought into the order of their classes, and then each is put together with the one
before it where the two make up one.
-/

namespace Provision.Text

/-! ## Korean syllables -/

namespace Syllable

/-- The first syllable; all follow in order. -/
def first : Nat := 0xAC00

/-- The number of syllables. -/
def count : Nat := 11172

/-- The first leading consonant. -/
def lead : Nat := 0x1100

/-- The first vowel. -/
def vowel : Nat := 0x1161

/-- The place before the first trailing consonant. -/
def trail : Nat := 0x11A7

/-- The letters of the syllable with an index. -/
def letters (index : Nat) : List Char :=
  let coda := index % 28
  [Char.ofNat (lead + index / 588), Char.ofNat (vowel + index % 588 / 28)] ++
    if coda = 0 then [] else [Char.ofNat (trail + coda)]

/-- The syllable of two letters, or of a syllable and one more letter. -/
def join? (a b : Char) : Option Char :=
  let x := a.toNat
  let y := b.toNat
  if lead ≤ x && x < lead + 19 && vowel ≤ y && y < vowel + 21 then
    some (Char.ofNat (first + ((x - lead) * 21 + (y - vowel)) * 28))
  else if first ≤ x && x < first + count && (x - first) % 28 = 0 && trail < y && y < trail + 28 then
    some (Char.ofNat (x + (y - trail)))
  else none

end Syllable

/-! ## Taking apart -/

/-- The parts of a character, taken apart so many times over. -/
def decomposeChar : Nat → Char → List Char
  | 0, c => [c]
  | depth + 1, c =>
    let n := c.toNat
    if n < 0xC0 then [c]
    else if Syllable.first ≤ n && n < Syllable.first + Syllable.count then
      Syllable.letters (n - Syllable.first)
    else
      match decompositionTable.value? n with
      | some d => d.parts.flatMap (decomposeChar depth)
      | none => [c]

/-- How often the parts of a character can be taken apart again. -/
def deepest : Nat := 4

/-- Marks up to the next other character in the order of their classes, and so on. -/
def sortMarks (cs : List Char) : List Char :=
  go cs []
where
  /-- `marks` are the marks met since the last other character, latest first. -/
  go : List Char → List Char → List Char
    | [], marks => settle marks
    | c :: rest, marks =>
      if combiningClass c = 0 then settle marks ++ c :: go rest []
      else go rest (c :: marks)
  /-- Marks in order. -/
  settle (marks : List Char) : List Char :=
    marks.reverse.mergeSort fun a b => combiningClass a ≤ combiningClass b

/-- The text with all characters taken apart. -/
def decompose (cs : List Char) : List Char := sortMarks (cs.flatMap (decomposeChar deepest))

/-! ## Putting together -/

/-- The character that two make up. -/
def join? (a b : Char) : Option Char :=
  match Syllable.join? a b with
  | some c => some c
  | none => compositionTable.value? (pairNumber a b)

/-- The text put together, from a character on that no mark belongs to, with what stands between it
and the rest, latest first. -/
def composeFrom (base : Char) (between : List Char) : List Char → List Char
  | [] => base :: between.reverse
  | c :: rest =>
    let reaches :=
      match between with
      | [] => true
      | mark :: _ => combiningClass mark < combiningClass c
    match if reaches then join? base c else none with
    | some joined => composeFrom joined between rest
    | none =>
      if combiningClass c = 0 then base :: between.reverse ++ composeFrom c [] rest
      else composeFrom base (c :: between) rest

/-- Text that is taken apart, put together. -/
def composeApart : List Char → List Char
  | [] => []
  | c :: rest => if combiningClass c = 0 then composeFrom c [] rest else c :: composeApart rest

/-- The text put together as far as it can be. -/
def compose (cs : List Char) : List Char :=
  if cs.all (·.toNat < 0x80) then cs else composeApart (decompose cs)

end Provision.Text
