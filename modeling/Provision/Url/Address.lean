import Provision.Url.Percent

/-!
# Internet addresses

An IPv4 address is read from up to four numbers in base ten, eight or sixteen, the last of which
fills the bytes that are left. An IPv6 address is read from up to eight groups, of which one run of
zeros may be left out, and written with the first longest run of at least two zero groups left out.
-/

namespace Provision.Url

/-- The number of digits of a base; none if a character is no digit. -/
def digitsValue? (base : Nat) (cs : List Char) : Option Nat :=
  cs.foldlM (fun n c =>
    match hexDigitValue? c with
    | some d => if d < base then some (n * base + d) else none
    | none => none) 0

/-- A number of an IPv4 address: base sixteen after `0x`, base eight after `0`, else base ten. -/
def ipv4Number? (part : List Char) : Option Nat :=
  match part with
  | [] => none
  | '0' :: 'x' :: rest | '0' :: 'X' :: rest => digitsValue? 16 rest
  | '0' :: c :: rest => digitsValue? 8 (c :: rest)
  | part => digitsValue? 10 part

/-- The parts between the dots. -/
def dotParts : List Char → List (List Char)
  | [] => [[]]
  | '.' :: rest => [] :: dotParts rest
  | c :: rest =>
    match dotParts rest with
    | [] => [[c]]
    | p :: ps => (c :: p) :: ps

/-- The parts without an empty last one. -/
def withoutTrailingDot (parts : List (List Char)) : List (List Char) :=
  if parts.getLast? = some [] && 1 < parts.length then parts.dropLast else parts

/-- Whether the last part of a host is a number, so that the host must be an address. -/
def endsInNumber (host : List Char) : Bool :=
  match (withoutTrailingDot (dotParts host)).getLast? with
  | none => false
  | some last => (!last.isEmpty && last.all Char.isDigit) || (ipv4Number? last).isSome

/-- The value of an IPv4 address, by its numbers. -/
def ipv4Value? (numbers : List Nat) : Option Nat :=
  match numbers.reverse with
  | [] => none
  | last :: before =>
    if 4 < numbers.length || before.any (255 < ·) || Nat.pow 256 (4 - before.length) ≤ last
    then none
    else
      let high := before.reverse.foldl (fun n b => n * 256 + b) 0
      some (high * Nat.pow 256 (4 - before.length) + last)

/-- The text of an IPv4 address. -/
def ipv4Text (n : Nat) : String :=
  ".".intercalate ([3, 2, 1, 0].map fun k => toString (n / Nat.pow 256 k % 256))

/-- The text of the IPv4 address that a host is. -/
def ipv4? (host : List Char) : Option String := do
  let numbers ← (withoutTrailingDot (dotParts host)).mapM ipv4Number?
  let n ← ipv4Value? numbers
  some (ipv4Text n)

/-- The parts between colons. -/
def colonParts : List Char → List (List Char)
  | [] => [[]]
  | ':' :: rest => [] :: colonParts rest
  | c :: rest =>
    match colonParts rest with
    | [] => [[c]]
    | p :: ps => (c :: p) :: ps

/-- A group of one to four digits in base sixteen. -/
def ipv6Group? (part : List Char) : Option Nat :=
  if part.isEmpty || 4 < part.length then none else digitsValue? 16 part

/-- One of the four numbers at the end of an IPv6 address: at most 255, without needless zeros. -/
def embeddedNumber? (part : List Char) : Option Nat :=
  if part.isEmpty || (part.head? = some '0' && 1 < part.length) then none
  else
    match digitsValue? 10 part with
    | some n => if n ≤ 255 then some n else none
    | none => none

/-- The two groups that an embedded IPv4 address stands for. -/
def embedded? (part : List Char) : Option (List Nat) :=
  match (dotParts part).mapM embeddedNumber? with
  | some [a, b, c, d] => some [a * 256 + b, c * 256 + d]
  | _ => none

/-- The groups of parts; an embedded IPv4 address may be the last part. -/
def groups? : List (List Char) → Option (List Nat)
  | [] => some []
  | [part] =>
    match ipv6Group? part with
    | some g => some [g]
    | none => embedded? part
  | part :: rest => do
    let g ← ipv6Group? part
    let gs ← groups? rest
    some (g :: gs)

/-- The parts before and after an empty one in the middle. -/
def splitAtEmpty : List (List Char) → Option (List (List Char) × List (List Char))
  | [] => none
  | [] :: rest => some ([], rest)
  | part :: rest => (splitAtEmpty rest).map fun (before, after) => (part :: before, after)

/-- The parts of an address with a gap, on both sides of it. -/
def aroundGap (parts : List (List Char)) : Option (List (List Char) × List (List Char)) :=
  match parts with
  | [[], [], []] => some ([], [])
  | [] :: [] :: part :: rest => some ([], part :: rest)
  | parts =>
    match splitAtEmpty parts with
    | some (before, [[]]) => if before.isEmpty then none else some (before, [])
    | some (before, after) => if before.isEmpty || after.isEmpty then none else some (before, after)
    | none => none

/-- The eight groups of an IPv6 address. -/
def ipv6Groups? (cs : List Char) : Option (List Nat) := do
  let parts := colonParts cs
  if parts.contains [] then
    let (before, after) ← aroundGap parts
    if before.getLast?.any (·.contains '.') then none
    let a ← groups? before
    let b ← groups? after
    if a.length + b.length < 8 then
      some (a ++ List.replicate (8 - a.length - b.length) 0 ++ b)
    else none
  else
    let a ← groups? parts
    if a.length = 8 then some a else none

/-- The number of zeros at the start. -/
def zeroRun (groups : List Nat) : Nat := (groups.takeWhile (· = 0)).length

/-- Place and length of the first longest run of zeros, counted from `place`. -/
def longestRun : Nat → List Nat → Nat × Nat
  | place, [] => (place, 0)
  | place, g :: gs =>
    let here := zeroRun (g :: gs)
    let later := longestRun (place + 1) gs
    if later.2 ≤ here then (place, here) else later

/-- Groups with colons between them. -/
def groupsText (groups : List Nat) : String :=
  ":".intercalate (groups.map fun g => String.ofList (Nat.toDigits 16 g))

/-- The text of an IPv6 address, between brackets. -/
def ipv6Text (groups : List Nat) : String :=
  let (place, run) := longestRun 0 groups
  let inner :=
    if run < 2 then groupsText groups
    else groupsText (groups.take place) ++ "::" ++ groupsText (groups.drop (place + run))
  "[" ++ inner ++ "]"

/-- The text of the IPv6 address that stands between brackets. -/
def ipv6? (cs : List Char) : Option String := (ipv6Groups? cs).map ipv6Text

end Provision.Url
