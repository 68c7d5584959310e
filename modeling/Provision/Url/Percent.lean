import Provision.Text.Bytes

/-!
# Percent encoding

A character that may not stand in a part of a URL is written as the bytes of its UTF-8 form, each as
a percent sign and two digits in base sixteen. Which characters those are depends on the part; none
outside ASCII may stand anywhere.
-/

namespace Provision.Url

/-- A digit in base sixteen, upper case. -/
def upperHexDigit (n : Nat) : Char := (Nat.digitChar (n % 16)).toUpper

/-- A byte as a percent sign and two digits. -/
def percentByte (b : UInt8) : List Char :=
  ['%', upperHexDigit (b.toNat / 16), upperHexDigit b.toNat]

/-- The UTF-8 form of one character. -/
def charBytes (c : Char) : List UInt8 := Text.encode (String.singleton c)

/-- Controls, and everything outside ASCII. -/
def isControl (c : Char) : Bool := c.toNat < 0x20 || 0x7F ≤ c.toNat

/-- What may not stand in a fragment. -/
def inFragment (c : Char) : Bool :=
  isControl c || c = ' ' || c = '"' || c = '<' || c = '>' || c.toNat = 0x60

/-- What may not stand in a query. -/
def inQuery (c : Char) : Bool :=
  isControl c || c = ' ' || c = '"' || c = '#' || c = '<' || c = '>'

/-- What may not stand in a query of a special scheme. -/
def inSpecialQuery (c : Char) : Bool := inQuery c || c = '\''

/-- What may not stand in a path. -/
def inPath (c : Char) : Bool := inFragment c || c = '#' || c = '?' || c = '{' || c = '}'

/-- What may not stand in a single segment that is added to a path. -/
def inSegment (c : Char) : Bool := inPath c || c = '/' || c = '%'

/-- What may not stand in a single segment that is added to a path of a special scheme. -/
def inSpecialSegment (c : Char) : Bool := inSegment c || c = '\\'

/-- What may not stand in a user name or password. -/
def inUser (c : Char) : Bool :=
  inPath c || c = '/' || c = ':' || c = ';' || c = '=' || c = '@' || c = '[' || c = '\\' ||
    c = ']' || c = '^' || c = '|'

/-- A text with every character of a set encoded. -/
def percentEncode (set : Char → Bool) (cs : List Char) : List Char :=
  cs.flatMap fun c => if set c then (charBytes c).flatMap percentByte else [c]

/-- The value of a digit in base sixteen. -/
def hexDigitValue? (c : Char) : Option Nat :=
  if c.isDigit then some (c.toNat - 48)
  else if 'a' ≤ c && c ≤ 'f' then some (c.toNat - 87)
  else if 'A' ≤ c && c ≤ 'F' then some (c.toNat - 55)
  else none

/-- The bytes of an encoded text; a percent sign that no two digits follow stands for itself. -/
def percentDecode : List Char → List UInt8
  | [] => []
  | '%' :: h :: l :: rest =>
    match hexDigitValue? h, hexDigitValue? l with
    | some a, some b => UInt8.ofNat (a * 16 + b) :: percentDecode rest
    | _, _ => 0x25 :: percentDecode (h :: l :: rest)
  | c :: rest => charBytes c ++ percentDecode rest

end Provision.Url
