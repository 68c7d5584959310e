/-!
# Double precision numbers

A `Binary64` is the bit pattern of a double. It is read from a decimal number by scaling a 64 bit
significand with powers of ten, and written with the fewest digits that read back.

`Shortest` works on exact natural numbers: the reals that round to a double form an interval, and
the digits are those of the coarsest decimal grid with a point in it.
-/

namespace Provision.Json

/-- A double, as its bits: sign, eleven bits of exponent, fifty two bits of fraction. -/
structure Binary64 where
  bits : UInt64
  deriving DecidableEq, Repr

/-- A decimal number `digits * 10 ^ exponent`. -/
structure Decimal where
  digits : Nat
  exponent : Int
  deriving DecidableEq, Repr

/-- A decimal without trailing zeros in its digits. -/
def Decimal.trim : Nat → Decimal → Decimal
  | 0, d => d
  | fuel + 1, d =>
    if d.digits ≠ 0 && d.digits % 10 = 0 then trim fuel ⟨d.digits / 10, d.exponent + 1⟩ else d

namespace Binary64

/-- Whether the sign bit is set. -/
def negative (x : Binary64) : Bool := x.bits.toNat / 0x8000000000000000 = 1

/-- The eleven bits of exponent. -/
def biased (x : Binary64) : Nat := x.bits.toNat / 0x10000000000000 % 0x800

/-- The fifty two bits of fraction. -/
def fraction (x : Binary64) : Nat := x.bits.toNat % 0x10000000000000

/-- The magnitude is `significand * 2 ^ (scale - 1074)`. -/
def significand (x : Binary64) : Nat :=
  if x.biased = 0 then x.fraction else 0x10000000000000 + x.fraction

/-- The power of two over the least one. -/
def scale (x : Binary64) : Nat := x.biased - 1

/-- The reals that round to a magnitude, in units of `2 ^ -1076`: the value and the two ends, which
belong to the interval when the significand is even. -/
structure Interval where
  value : Nat
  low : Nat
  high : Nat
  closed : Bool

/-- The interval of a double. Below a power of two the doubles lie twice as close. -/
def interval (x : Binary64) : Interval :=
  let unit := Nat.pow 2 x.scale
  let below := if x.fraction = 0 && 1 < x.biased then unit else 2 * unit
  ⟨4 * x.significand * unit, 4 * x.significand * unit - below, 4 * x.significand * unit + 2 * unit,
    x.significand % 2 = 0⟩

/-- Whether `n / den`, in the units of the interval, lies in it. -/
def Interval.holds (i : Interval) (n den : Nat) : Bool :=
  if i.closed then i.low * den ≤ n && n ≤ i.high * den
  else i.low * den < n && n < i.high * den

/-- `2 ^ 1076 * 10 ^ e` as a fraction. -/
def gridUnit (e : Int) : Nat × Nat :=
  if 0 ≤ e then (Nat.pow 2 1076 * Nat.pow 10 e.toNat, 1)
  else (Nat.pow 2 1076, Nat.pow 10 (-e).toNat)

/-- The point of the grid `10 ^ e` in the interval that is nearest to the value; of two equally
near the even one. -/
def Interval.onGrid? (i : Interval) (e : Int) : Option Nat :=
  let (num, den) := gridUnit e
  let below := i.value * den / num
  let rest := i.value * den - below * num
  let okBelow := 0 < below && i.holds (below * num) den
  let okAbove := i.holds ((below + 1) * num) den
  if okBelow && okAbove then
    if 2 * rest < num || (2 * rest = num && below % 2 = 0) then some below else some (below + 1)
  else if okBelow then some below
  else if okAbove then some (below + 1)
  else none

/-- The greatest `e` with `10 ^ e ≤ value`, found downwards from `start`. -/
def Interval.leading (i : Interval) : Nat → Int → Int
  | 0, start => start
  | fuel + 1, start =>
    let (num, den) := gridUnit start
    if num ≤ i.value * den then start else i.leading fuel (start - 1)

/-- The first grid with a point in the interval, from coarse to fine. -/
def Interval.firstGrid (i : Interval) : Nat → Int → Decimal
  | 0, e => ⟨i.value * (gridUnit e).2 / (gridUnit e).1, e⟩
  | fuel + 1, e =>
    match i.onGrid? e with
    | some d => ⟨d, e⟩
    | none => i.firstGrid fuel (e - 1)

/-- The magnitude of a finite double in the fewest digits that read back. -/
def shortest (x : Binary64) : Decimal :=
  if x.significand = 0 then ⟨0, 0⟩
  else
    let i := x.interval
    Decimal.trim 20 (i.firstGrid 18 (i.leading 640 309))

/-- How a decimal is laid out: positional up to a width, else with an exponent. -/
structure Layout where
  /-- Least power of ten of a first digit that is written positionally. -/
  leastPositional : Int
  /-- Greatest such power. -/
  greatestPositional : Int

/-- Positional from `0.00001` to sixteen digits before the point. -/
def layout : Layout := ⟨-5, 15⟩

/-- The digits of `n` in base ten. -/
def digits (n : Nat) : List Char := Nat.toDigits 10 n

/-- A positive decimal in the layout: always with a point or an exponent. -/
def Layout.write (l : Layout) (d : Decimal) : List Char :=
  let ds := digits d.digits
  let first := d.exponent + ds.length - 1
  if first < l.leastPositional || l.greatestPositional < first then
    let mantissa :=
      match ds with
      | [c] => [c]
      | c :: cs => c :: '.' :: cs
      | [] => []
    mantissa ++ 'e' :: (if first < 0 then '-' else '+') :: digits first.natAbs
  else if 0 ≤ d.exponent then ds ++ List.replicate d.exponent.toNat '0' ++ ['.', '0']
  else if 0 ≤ first then
    let whole := (first + 1).toNat
    ds.take whole ++ '.' :: ds.drop whole
  else '0' :: '.' :: (List.replicate (-first - 1).toNat '0' ++ ds)

/-- The text of a finite double in a layout. -/
def write (l : Layout) (x : Binary64) : List Char :=
  (if x.negative then ['-'] else []) ++
    (if x.significand = 0 then ['0', '.', '0'] else l.write x.shortest)

/-- The text of a finite double. -/
def chars (x : Binary64) : List Char := x.write layout

/-- `10 ^ e` as a double. -/
def tenTo (e : Nat) : Float := Float.ofScientific 1 false e

/-- `f / 10 ^ e`, through the greatest finite power of ten as often as it takes. -/
def scaleDown (f : Float) (e : Nat) : Float :=
  if e ≤ 308 then f / tenTo e
  else if f == 0 then f
  else scaleDown (f / tenTo 308) (e - 308)
termination_by e

/-- `f * 10 ^ e`; none when that is no finite double. -/
def scaleUp? (f : Float) (e : Nat) : Option Float :=
  if e ≤ 308 then
    let g := f * tenTo e
    if g.isInf then none else some g
  else if f == 0 then some f
  else none

/-- The double of `± significand * 10 ^ exponent`, rounded once on the way from the significand and
once for every scaling; none when that is no finite double. -/
def ofScaled? (negative : Bool) (significand : UInt64) (exponent : Int) : Option Binary64 :=
  let f := significand.toFloat
  let g? := if 0 ≤ exponent then scaleUp? f exponent.toNat else some (scaleDown f exponent.natAbs)
  g?.map fun g => ⟨(if negative then -g else g).toBits⟩

end Binary64

end Provision.Json
