/-!
# Bytes read as text

`units` reads a byte sequence as UTF-8: every well formed sequence gives its character, and every
maximal ill formed part gives one gap. A strict reader refuses a sequence with a gap (`decode?`), a
lenient one shows each gap as U+FFFD (`decodeLossy`). `decodeMarked` also heeds a byte order mark,
which names the encoding of what follows and is itself dropped.
-/

namespace Provision.Text

/-- A character begun and not yet complete: how many bytes it still needs, the bounds of the next of
them, and the bits read so far. -/
structure Partial where
  missing : Nat
  low : Nat
  high : Nat
  bits : Nat

/-- What a first byte announces: a character or a gap at once, or a longer character. -/
inductive Lead where
  | whole (c : Option Char)
  | begun (p : Partial)

/-- The meaning of a byte where a character may start. -/
def lead (b : Nat) : Lead :=
  if b < 0x80 then .whole (some (Char.ofNat b))
  else if b < 0xC2 then .whole none
  else if b < 0xE0 then .begun ⟨1, 0x80, 0xBF, b - 0xC0⟩
  else if b = 0xE0 then .begun ⟨2, 0xA0, 0xBF, 0⟩
  else if b = 0xED then .begun ⟨2, 0x80, 0x9F, 0xD⟩
  else if b < 0xF0 then .begun ⟨2, 0x80, 0xBF, b - 0xE0⟩
  else if b = 0xF0 then .begun ⟨3, 0x90, 0xBF, 0⟩
  else if b < 0xF4 then .begun ⟨3, 0x80, 0xBF, b - 0xF0⟩
  else if b = 0xF4 then .begun ⟨3, 0x80, 0x8F, 4⟩
  else .whole none

/-- The characters and gaps of the bytes, after a character that may be incomplete. -/
def unitsAfter : Option Partial → List UInt8 → List (Option Char)
  | none, [] => []
  | some _, [] => [none]
  | none, b :: bs =>
    match lead b.toNat with
    | .whole c => c :: unitsAfter none bs
    | .begun p => unitsAfter (some p) bs
  | some p, b :: bs =>
    if p.low ≤ b.toNat && b.toNat ≤ p.high then
      let bits := p.bits * 64 + (b.toNat - 0x80)
      if p.missing = 1 then some (Char.ofNat bits) :: unitsAfter none bs
      else unitsAfter (some ⟨p.missing - 1, 0x80, 0xBF, bits⟩) bs
    else
      none ::
        match lead b.toNat with
        | .whole c => c :: unitsAfter none bs
        | .begun q => unitsAfter (some q) bs

/-- The characters and gaps of a byte sequence. -/
def units (bytes : List UInt8) : List (Option Char) := unitsAfter none bytes

/-- U+FFFD, which stands for what could not be read. -/
def replacement : Char := '\uFFFD'

/-- The text of well formed bytes. -/
def decode? (bytes : List UInt8) : Option String :=
  ((units bytes).mapM id).map String.ofList

/-- The text of any bytes, with U+FFFD for every gap. -/
def decodeLossy (bytes : List UInt8) : String :=
  String.ofList ((units bytes).map (·.getD replacement))

/-- Sixteen bit units read as text: a surrogate without its partner gives U+FFFD. -/
def ofUnits16 : List Nat → List Char
  | [] => []
  | h :: l :: rest =>
    if 0xD800 ≤ h && h < 0xDC00 && 0xDC00 ≤ l && l < 0xE000 then
      Char.ofNat (0x10000 + (h - 0xD800) * 0x400 + (l - 0xDC00)) :: ofUnits16 rest
    else if 0xD800 ≤ h && h < 0xE000 then replacement :: ofUnits16 (l :: rest)
    else Char.ofNat h :: ofUnits16 (l :: rest)
  | [u] => [if 0xD800 ≤ u && u < 0xE000 then replacement else Char.ofNat u]

/-- Pairs of bytes as sixteen bit units, most significant byte first; a byte left over is a lone
surrogate. -/
def pairs16 : List UInt8 → List Nat
  | [] => []
  | [_] => [0xDC00]
  | a :: b :: rest => (a.toNat * 256 + b.toNat) :: pairs16 rest

/-- Every pair of bytes exchanged. -/
def swapPairs : List UInt8 → List UInt8
  | a :: b :: rest => b :: a :: swapPairs rest
  | rest => rest

/-- The text of bytes that may start with a byte order mark; without one they are UTF-8. -/
def decodeMarked : List UInt8 → String
  | 0xEF :: 0xBB :: 0xBF :: rest => decodeLossy rest
  | 0xFE :: 0xFF :: rest => String.ofList (ofUnits16 (pairs16 rest))
  | 0xFF :: 0xFE :: rest => String.ofList (ofUnits16 (pairs16 (swapPairs rest)))
  | bytes => decodeLossy bytes

/-- The UTF-8 form of a text. -/
def encode (s : String) : List UInt8 := s.toUTF8.toList

end Provision.Text

namespace Provision

/-- A sequence of bytes, each as the character with its number. -/
abbrev Bytes := List Char

/-- The bytes of a text. -/
def Bytes.ofText (s : String) : Bytes := (Text.encode s).map fun b => Char.ofNat b.toNat

/-- The text of some bytes, however ill formed. -/
def Bytes.text (b : Bytes) : String := Text.decodeLossy (b.map fun c => UInt8.ofNat c.toNat)

end Provision
