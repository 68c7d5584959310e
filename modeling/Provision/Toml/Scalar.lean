import Provision.Json.Binary64

/-!
# Toml scalars

The words that stand for numbers, truth values, dates and times. Integers have 64 bits. Digits may
be grouped by single underscores. A date must exist.
-/

namespace Provision.Toml

/-- A value without parts. -/
inductive Scalar where
  | integer (n : Int)
  | double (x : Json.Binary64)
  | bool (b : Bool)
  /-- A date, a time, or both. -/
  | datetime
  deriving DecidableEq

/-- The value of a digit in base sixteen. -/
def digitValue? (c : Char) : Option Nat :=
  if c.isDigit then some (c.toNat - 48)
  else if 'a' ≤ c && c ≤ 'f' then some (c.toNat - 87)
  else if 'A' ≤ c && c ≤ 'F' then some (c.toNat - 55)
  else none

/-- A digit of a base. -/
def digit? (base : Nat) (c : Char) : Option Nat := (digitValue? c).filter (· < base)

/-- The digits of a number, after one of them: each may follow an underscore. -/
def digitsAfter (base : Nat) : List Char → Option (List Nat)
  | [] => some []
  | '_' :: c :: rest => do
    let d ← digit? base c
    let ds ← digitsAfter base rest
    some (d :: ds)
  | c :: rest => do
    let d ← digit? base c
    let ds ← digitsAfter base rest
    some (d :: ds)

/-- The digits of a number; at least one. -/
def digits? (base : Nat) : List Char → Option (List Nat)
  | [] => none
  | c :: rest => do
    let d ← digit? base c
    let ds ← digitsAfter base rest
    some (d :: ds)

/-- The number that some digits stand for. -/
def ofDigits (base : Nat) (ds : List Nat) : Nat := ds.foldl (fun n d => n * base + d) 0

/-- A sign, if there is one, and the rest: whether it is negative. -/
def sign : List Char → Bool × List Char
  | '+' :: rest => (false, rest)
  | '-' :: rest => (true, rest)
  | cs => (false, cs)

/-- The digits of an integer in base ten, which does not start with a needless zero. -/
def decimal? (cs : List Char) : Option (List Nat) := do
  let ds ← digits? 10 cs
  if ds.head? = some 0 && 1 < ds.length then none else some ds

/-- An integer, if 64 bits hold it. -/
def integerOf (negative : Bool) (n : Nat) : Option Scalar :=
  if negative then
    if n ≤ 0x8000000000000000 then some (.integer (-(n : Int))) else none
  else if n < 0x8000000000000000 then some (.integer n) else none

/-- An integer. -/
def integer? (word : List Char) : Option Scalar :=
  match word with
  | '0' :: 'x' :: rest => (digits? 16 rest).bind fun ds => integerOf false (ofDigits 16 ds)
  | '0' :: 'o' :: rest => (digits? 8 rest).bind fun ds => integerOf false (ofDigits 8 ds)
  | '0' :: 'b' :: rest => (digits? 2 rest).bind fun ds => integerOf false (ofDigits 2 ds)
  | _ =>
    let (negative, rest) := sign word
    (decimal? rest).bind fun ds => integerOf negative (ofDigits 10 ds)

/-- The double with a sign. -/
def signed (negative : Bool) (x : Float) : Json.Binary64 :=
  ⟨if negative then (-x).toBits else x.toBits⟩

/-- The exponent after its letter. -/
def exponent? (cs : List Char) : Option Int := do
  let (negative, rest) := sign cs
  let ds ← digits? 10 rest
  let n : Int := ofDigits 10 ds
  some (if negative then -n else n)

/-- The value of digits times a power of ten. -/
def scaledFloat (significand : Nat) (power : Int) : Float :=
  if significand = 0 then 0
  else
    match power with
    | .ofNat n => Float.ofScientific significand false n
    | .negSucc n => Float.ofScientific significand true (n + 1)

/-- A power of ten beyond which a number with that many digits is zero or infinite anyway. -/
def clampPower (count : Nat) (power : Int) : Int :=
  max (-(400 + (count : Int))) (min power 400)

/-- A number with a point, an exponent or both. -/
def float? (word : List Char) : Option Scalar := do
  let (negative, rest) := sign word
  match rest with
  | ['i', 'n', 'f'] => some (.double (signed negative (1.0 / 0.0)))
  | ['n', 'a', 'n'] => some (.double (signed negative (0.0 / 0.0)))
  | _ =>
    let isMark (c : Char) : Bool := c = '.' || c = 'e' || c = 'E'
    let whole ← decimal? (rest.takeWhile (!isMark ·))
    let (fraction, after) ←
      match rest.dropWhile (!isMark ·) with
      | '.' :: tail => do
        let ds ← digits? 10 (tail.takeWhile (!isMark ·))
        some (ds, tail.dropWhile (!isMark ·))
      | [] => none
      | tail => some ([], tail)
    let power ←
      match after with
      | [] => some 0
      | '.' :: _ => none
      | _ :: tail => exponent? tail
    let significand := ofDigits 10 (whole ++ fraction)
    let digits := whole.length + fraction.length
    let x := scaledFloat significand (clampPower digits (power - fraction.length))
    if x == 1.0 / 0.0 && !negative then none else some (.double (signed negative x))

/-- The number of a fixed count of digits, and the rest. -/
def fixedDigits (count : Nat) (cs : List Char) : Option (Nat × List Char) := do
  let ds ← (cs.take count).mapM (digit? 10)
  if ds.length = count then some (ofDigits 10 ds, cs.drop count) else none

/-- Past one of some characters. -/
def expect (allowed : List Char) : List Char → Option (List Char)
  | c :: rest => if allowed.contains c then some rest else none
  | [] => none

/-- Whether a year has a leap day. -/
def isLeapYear (year : Nat) : Bool := year % 4 = 0 && (year % 100 ≠ 0 || year % 400 = 0)

/-- The number of days of a month. -/
def daysIn (year month : Nat) : Nat :=
  if month = 2 then if isLeapYear year then 29 else 28
  else if [4, 6, 9, 11].contains month then 30
  else 31

/-- Past a date. -/
def date? (cs : List Char) : Option (List Char) := do
  let (year, cs) ← fixedDigits 4 cs
  let cs ← expect ['-'] cs
  let (month, cs) ← fixedDigits 2 cs
  let cs ← expect ['-'] cs
  let (day, cs) ← fixedDigits 2 cs
  if 1 ≤ month && month ≤ 12 && 1 ≤ day && day ≤ daysIn year month then some cs else none

/-- Past hours and minutes. -/
def hourMinute? (cs : List Char) : Option (List Char) := do
  let (hour, cs) ← fixedDigits 2 cs
  let cs ← expect [':'] cs
  let (minute, cs) ← fixedDigits 2 cs
  if hour < 24 && minute < 60 then some cs else none

/-- Past a time. -/
def time? (cs : List Char) : Option (List Char) := do
  let cs ← hourMinute? cs
  let cs ← expect [':'] cs
  let (second, cs) ← fixedDigits 2 cs
  if 60 < second then none
  match cs with
  | '.' :: c :: rest => if c.isDigit then some (rest.dropWhile Char.isDigit) else none
  | '.' :: [] => none
  | cs => some cs

/-- Past the distance from universal time, if there is one. -/
def offset? (cs : List Char) : Option (List Char) :=
  match cs with
  | 'Z' :: rest | 'z' :: rest => some rest
  | '+' :: rest | '-' :: rest => hourMinute? rest
  | cs => some cs

/-- Whether a word is a date, a time, or a date and a time. -/
def isDatetime (word : List Char) : Bool :=
  match date? word with
  | some [] => true
  | some rest =>
    ((expect ['T', 't', ' '] rest).bind time?).bind offset? = some []
  | none => time? word = some []

/-- The value of a word. -/
def scalar? (word : List Char) : Option Scalar :=
  match word with
  | ['t', 'r', 'u', 'e'] => some (.bool true)
  | ['f', 'a', 'l', 's', 'e'] => some (.bool false)
  | _ => if isDatetime word then some .datetime else (integer? word).or (float? word)

end Provision.Toml
