import Provision.Shell.Syntax

/-!
# Floating numbers as text

A number is read from its decimal or hexadecimal form exactly, rounded to a binary fraction of so many
bits, and written with so many digits. Halves are rounded to the even neighbour.
-/

namespace Provision.Shell

/-- A number of a binary format. -/
inductive Floating where
  /-- The quotient of two numbers, of which the second is not zero. -/
  | finite (negative : Bool) (numerator denominator : Nat)
  | infinite (negative : Bool)
  | notANumber (negative : Bool)
  deriving Repr, Inhabited

namespace Floating

/-- A quotient rounded to the nearest number, a half to the even one. -/
def roundQuotient (a b : Nat) : Nat :=
  let q := a / b
  let r := a % b
  if 2 * r > b || (2 * r = b && q % 2 = 1) then q + 1 else q

/-- A quotient of two numbers rounded to a binary fraction of so many bits. -/
def roundBits (bits a b : Nat) : Nat × Nat :=
  if a = 0 || b = 0 then (0, 1)
  else
    let shift : Int := (Nat.log2 b : Int) - Nat.log2 a + bits
    let scaled (s : Int) : Nat :=
      if 0 ≤ s then roundQuotient (a * Nat.pow 2 s.toNat) b
      else roundQuotient a (b * Nat.pow 2 (-s).toNat)
    let m := scaled shift
    let shift := if Nat.pow 2 bits ≤ m then shift - 1 else shift
    let m := scaled shift
    if 0 ≤ shift then (m, Nat.pow 2 shift.toNat) else (m * Nat.pow 2 (-shift).toNat, 1)

/-- The greatest exponent of ten that is read. -/
def greatestExponent : Nat := 5000

/-- The digits of a base and how many of them stand after a point, and what follows. -/
def mantissa (isDigit : Char → Bool) (base : Nat) (value : Char → Nat) (cs : Bytes) :
    Option (Nat × Nat × Bytes) :=
  let whole := cs.takeWhile isDigit
  let rest := cs.drop whole.length
  let fraction :=
    match rest with
    | '.' :: rest => rest.takeWhile isDigit
    | _ => []
  let used :=
    match rest with
    | '.' :: _ => fraction.length + 1
    | _ => 0
  if whole.isEmpty && fraction.isEmpty then none
  else
    some ((whole ++ fraction).foldl (fun n c => n * base + value c) 0, fraction.length,
      rest.drop used)

/-- The exponent after a letter, and what follows; zero if there is none. -/
def exponent (letter : Char) (cs : Bytes) : Int × Bytes :=
  match cs with
  | c :: rest =>
    if c.toLower ≠ letter then (0, cs)
    else
      let (negative, ds) :=
        match rest with
        | '-' :: ds => (true, ds)
        | '+' :: ds => (false, ds)
        | ds => (false, ds)
      let digits := ds.takeWhile Char.isDigit
      if digits.isEmpty then (0, cs)
      else
        let n : Nat :=
          min greatestExponent (digits.foldl (fun n c => n * 10 + (c.toNat - 48)) 0)
        (if negative then -n else n, ds.drop digits.length)
  | [] => (0, cs)

/-- The value of a hexadecimal digit. -/
def hexValue (c : Char) : Nat :=
  if c.isDigit then c.toNat - 48 else if c.isLower then c.toNat - 87 else c.toNat - 55

/-- Whether a byte is a hexadecimal digit. -/
def isHexDigit (c : Char) : Bool :=
  c.isDigit || ('a' ≤ c && c ≤ 'f') || ('A' ≤ c && c ≤ 'F')

/-- The number that a text starts with, in a format of so many bits, and what follows; none without
one. -/
def read (bits : Nat) (cs : Bytes) : Option (Floating × Bytes) :=
  let cs := cs.dropWhile fun c => c = ' ' || ('\t' ≤ c && c ≤ '\r')
  let (negative, cs) :=
    match cs with
    | '-' :: rest => (true, rest)
    | '+' :: rest => (false, rest)
    | _ => (false, cs)
  let lower := cs.map Char.toLower
  let rounded (a b : Nat) : Floating :=
    let (a, b) := roundBits bits a b
    .finite negative a b
  if "infinity".toList.isPrefixOf lower then some (.infinite negative, cs.drop 8)
  else if "inf".toList.isPrefixOf lower then some (.infinite negative, cs.drop 3)
  else if "nan".toList.isPrefixOf lower then some (.notANumber negative, cs.drop 3)
  else
    let hexadecimal :=
      match cs with
      | '0' :: x :: rest =>
        if x = 'x' || x = 'X' then mantissa isHexDigit 16 hexValue rest else none
      | _ => none
    match hexadecimal with
    | some (m, places, rest) =>
      let (e, rest) := exponent 'p' rest
      let e := e - 4 * places
      some (if 0 ≤ e then rounded (m * Nat.pow 2 e.toNat) 1
        else rounded m (Nat.pow 2 (-e).toNat), rest)
    | none =>
      (mantissa Char.isDigit 10 (fun c => c.toNat - 48) cs).map fun (m, places, rest) =>
        let (e, rest) := exponent 'e' rest
        let e := e - places
        (if 0 ≤ e then rounded (m * Nat.pow 10 e.toNat) 1
          else rounded m (Nat.pow 10 (-e).toNat), rest)

/-- Digits with at least so many of them. -/
def padded (width n : Nat) : Bytes :=
  let ds := (toString n).toList
  List.replicate (width - ds.length) '0' ++ ds

/-- A quotient with so many digits after the point. -/
def fixed (a b places : Nat) (point : Bool) : Bytes :=
  let n := roundQuotient (a * Nat.pow 10 places) b
  let ds := padded (places + 1) n
  let whole := ds.take (ds.length - places)
  if places = 0 then whole ++ (if point then ['.'] else [])
  else whole ++ '.' :: ds.drop (ds.length - places)

/-- A power of ten that a quotient is at least, the greatest one; the quotient is not zero. -/
def decimalExponent (a b : Nat) : Int :=
  let guess : Int := ((toString a).length : Int) - (toString b).length
  let reaches (e : Int) : Bool :=
    if 0 ≤ e then b * Nat.pow 10 e.toNat ≤ a else b ≤ a * Nat.pow 10 (-e).toNat
  if reaches (guess + 1) then guess + 1 else if reaches guess then guess else guess - 1

/-- The digits of a quotient with one before the point and so many after it, and its exponent. -/
def scientificDigits (a b places : Nat) : Nat × Int :=
  if a = 0 then (0, 0)
  else
    let e := decimalExponent a b
    let scaled (e : Int) : Nat :=
      let k := (places : Int) - e
      if 0 ≤ k then roundQuotient (a * Nat.pow 10 k.toNat) b
      else roundQuotient a (b * Nat.pow 10 (-k).toNat)
    let n := scaled e
    if Nat.pow 10 (places + 1) ≤ n then (scaled (e + 1), e + 1) else (n, e)

/-- An exponent of two digits at least. -/
def exponentText (e : Int) : Bytes := (if e < 0 then '-' else '+') :: padded 2 e.natAbs

/-- A quotient with an exponent. -/
def scientific (a b places : Nat) (point : Bool) : Bytes :=
  let (n, e) := scientificDigits a b places
  let ds := padded (places + 1) n
  ds.take 1 ++ (if places = 0 then (if point then ['.'] else []) else '.' :: ds.drop 1) ++
    'e' :: exponentText e

/-- A text without the zeros at the end of its fraction. -/
def trimmed (cs : Bytes) : Bytes :=
  if cs.contains '.' then
    let r := cs.reverse.dropWhile (· = '0')
    (if r.head? = some '.' then r.drop 1 else r).reverse
  else cs

/-- A quotient with so many digits, with an exponent if it is very great or small. -/
def general (a b precision : Nat) (keepZeros : Bool) : Bytes :=
  let precision := max 1 precision
  let (_, e) := scientificDigits a b (precision - 1)
  if e < -4 || (precision : Int) ≤ e then
    let text := scientific a b (precision - 1) keepZeros
    if keepZeros then text
    else
      let digits := text.takeWhile (· ≠ 'e')
      trimmed digits ++ text.drop digits.length
  else
    let text := fixed a b ((precision : Int) - 1 - e).toNat keepZeros
    if keepZeros then text else trimmed text

/-- A quotient in base sixteen, in a format of so many bits of which the first `lead` stand before
the point. -/
def hexadecimal (bits lead a b : Nat) : Bytes :=
  if a = 0 then "0x0p+0".toList
  else
    let shift : Int := (Nat.log2 b : Int) - Nat.log2 a + bits
    let scaled (s : Int) : Nat :=
      if 0 ≤ s then a * Nat.pow 2 s.toNat / b else a / (b * Nat.pow 2 (-s).toNat)
    let shift := if Nat.pow 2 bits ≤ scaled shift then shift - 1 else shift
    let m := scaled shift
    let fractionBits := bits - lead
    let digitCount := (fractionBits + 3) / 4
    let m := m * Nat.pow 2 (4 * digitCount - fractionBits)
    let ds := Nat.toDigits 16 m
    let ds := List.replicate (digitCount + 1 - ds.length) '0' ++ ds
    let whole := ds.take (ds.length - digitCount)
    let fraction := ((ds.drop (ds.length - digitCount)).reverse.dropWhile (· = '0')).reverse
    let e : Int := (fractionBits : Int) - shift
    "0x".toList ++ whole ++ (if fraction.isEmpty then [] else '.' :: fraction) ++
      'p' :: (if e < 0 then '-' else '+') :: (toString e.natAbs).toList

end Floating

end Provision.Shell
