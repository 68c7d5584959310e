/-!
# Punycode

A label of a domain name that goes beyond ASCII is written as its ASCII characters, a hyphen, and
the other characters as distances in base thirty-six: taken in ascending order, each distance counts
the states passed since the one before, a state being a code point together with a place in the
label. Digits have a weight that adapts to the distances met so far.
-/

namespace Provision.Url.Punycode

/-- The threshold of the digit with a given base weight. -/
def threshold (k bias : Nat) : Nat :=
  if k ≤ bias + 1 then 1 else if bias + 26 ≤ k then 26 else k - bias

theorem threshold_pos (k bias : Nat) : 1 ≤ threshold k bias := by
  unfold threshold
  split
  · omega
  · split <;> omega

/-- How often `delta` can be divided by 35 before it is at most 455, and what is left. -/
def scale (delta : Nat) : Nat × Nat :=
  if delta ≤ 455 then (0, delta) else
    let (times, left) := scale (delta / 35)
    (times + 1, left)
termination_by delta
decreasing_by omega

/-- The bias after a distance, in a label that has `points` characters then. -/
def adapt (delta points : Nat) (first : Bool) : Nat :=
  let d := if first then delta / 700 else delta / 2
  let (times, left) := scale (d + d / points)
  36 * times + 36 * left / (left + 38)

/-- A digit in base thirty-six: letters, then numerals. -/
def digit (d : Nat) : Char := if d < 26 then Char.ofNat (97 + d) else Char.ofNat (22 + d)

/-- The value of a digit. -/
def digitValue? (c : Char) : Option Nat :=
  if 'a' ≤ c && c ≤ 'z' then some (c.toNat - 97)
  else if 'A' ≤ c && c ≤ 'Z' then some (c.toNat - 65)
  else if c.isDigit then some (c.toNat - 22)
  else none

/-- The digits of a distance. -/
def digits (bias k q : Nat) : List Char :=
  let t := threshold k bias
  if q < t then [digit q]
  else digit (t + (q - t) % (36 - t)) :: digits bias (k + 36) ((q - t) / (36 - t))
termination_by q
decreasing_by
  have := threshold_pos k bias
  have := Nat.div_le_self (q - threshold k bias) (36 - threshold k bias)
  omega

/-- What has been written, the distance since then, the bias, and the number of characters done. -/
structure Writer where
  out : List Char
  delta : Nat
  bias : Nat
  done : Nat

/-- The writer after a character of the label, when the code point `m` is being written. -/
def Writer.pass (basic m : Nat) (w : Writer) (c : Char) : Writer :=
  if c.toNat < m then { w with delta := w.delta + 1 }
  else if c.toNat = m then
    { out := w.out ++ digits w.bias 36 w.delta
      delta := 0
      bias := adapt w.delta (w.done + 1) (w.done = basic)
      done := w.done + 1 }
  else w

/-- The writer after the code points of a list, when all below `n` are written. -/
def Writer.points (label : List Char) (basic : Nat) : List Nat → Nat → Writer → Writer
  | [], _, w => w
  | m :: rest, n, w =>
    let w := { w with delta := w.delta + (m - n) * (w.done + 1) }
    let w := label.foldl (Writer.pass basic m) w
    Writer.points label basic rest (m + 1) { w with delta := w.delta + 1 }

/-- The code points beyond ASCII, each once, ascending. -/
def beyondAscii (label : List Char) : List Nat :=
  (((label.map Char.toNat).filter (128 ≤ ·)).mergeSort (· ≤ ·)).eraseDups

/-- The written form of a label. -/
def encode (label : List Char) : List Char :=
  let basic := label.filter (·.toNat < 128)
  let start : Writer :=
    ⟨if basic.isEmpty then [] else basic ++ ['-'], 0, 72, basic.length⟩
  (Writer.points label basic.length (beyondAscii label) 128 start).out

/-- The distance at the start of some digits, and the digits after it. -/
def distance? (bias : Nat) : Nat → Nat → Nat → List Char → Option (Nat × List Char)
  | _, _, _, [] => none
  | k, weight, total, c :: rest => do
    let d ← digitValue? c
    let total := total + d * weight
    let t := threshold k bias
    if d < t then some (total, rest) else distance? bias (k + 36) (weight * (36 - t)) total rest

/-- The characters that some digits put into a label; `fuel` bounds their number. -/
def insertPoints : Nat → Nat → Nat → Nat → List Char → List Char → Option (List Char)
  | _, _, _, _, label, [] => some label
  | 0, _, _, _, _, _ => none
  | fuel + 1, n, i, bias, label, cs => do
    let (d, rest) ← distance? bias 36 1 0 cs
    let size := label.length + 1
    let n := n + (i + d) / size
    let place := (i + d) % size
    if n < 0xD800 || (0xE000 ≤ n && n < 0x110000) then
      insertPoints fuel n (place + 1) (adapt d size (label.all (·.toNat < 128)))
        (label.take place ++ Char.ofNat n :: label.drop place) rest
    else none

/-- ASCII characters before the last hyphen, and the digits after it. -/
def splitHyphen (cs : List Char) : List Char × List Char :=
  if cs.contains '-' then
    let digits := (cs.reverse.takeWhile (· ≠ '-')).reverse
    (cs.take (cs.length - digits.length - 1), digits)
  else ([], cs)

/-- The label of a written form. -/
def decode? (cs : List Char) : Option (List Char) :=
  let (basic, digits) := splitHyphen cs
  insertPoints digits.length 128 0 72 basic digits

end Provision.Url.Punycode
