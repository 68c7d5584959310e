import Provision.Json.Document

/-!
# Reading Json text

`Document.read` turns a text into a document. Every value is read strictly; a member whose value
cannot be read strictly is passed over by `skipValue`, which asks for less: it sets no limit to
nesting, does not evaluate numbers and does not pair surrogates. If even that fails, reading ends
there.

Strictly at most `nesting` containers may be open at once.
-/

namespace Provision

open Json

namespace Cursor

/-- A fault about the bytes already passed. -/
def behind (c : Cursor) (f : Fault) : Mishap := ⟨f, c.pos⟩

/-- A fault about the next byte. -/
def ahead (c : Cursor) (f : Fault) : Mishap := ⟨f, if c.rest.isEmpty then c.pos else c.pos + 1⟩

/-- Whether `c` may stand between tokens. -/
def isJsonBlank (c : Char) : Bool := c = ' ' || c = '\n' || c = '\t' || c = '\r'

/-- Past blanks. -/
def skipBlank (c : Cursor) : Cursor :=
  go c.rest c.pos
where
  /-- Past the blanks of a text that starts at `pos`. -/
  go : List Char → Nat → Cursor
    | [], pos => ⟨[], pos⟩
    | x :: xs, pos => if isJsonBlank x then go xs (pos + 1) else ⟨x :: xs, pos⟩

/-- Past a word, letter by letter. -/
def word : List Char → Cursor → Except Mishap Cursor
  | [], c => .ok c
  | l :: ls, c =>
    match c.rest with
    | [] => .error (c.behind .eofValue)
    | x :: _ => if x = l then word ls c.next else .error (c.ahead .expectedIdent)

end Cursor

end Provision

namespace Provision.Json

/-! ## Strings -/

/-- The value of a digit in base sixteen. -/
def hexValue? (c : Char) : Option Nat :=
  if c.isDigit then some (c.toNat - 48)
  else if 'a' ≤ c && c ≤ 'f' then some (c.toNat - 87)
  else if 'A' ≤ c && c ≤ 'F' then some (c.toNat - 55)
  else none

/-- The number of bytes of some characters. -/
def byteCount (cs : List Char) : Nat := cs.foldl (fun n c => n + c.utf8Size) 0

/-- The number that the next four bytes spell in base sixteen. -/
def hexFour (c : Cursor) : Except Mishap (Nat × Cursor) :=
  match c.rest with
  | h₁ :: h₂ :: h₃ :: h₄ :: rest =>
    match hexValue? h₁, hexValue? h₂, hexValue? h₃, hexValue? h₄ with
    | some a, some b, some d, some e => .ok (((a * 16 + b) * 16 + d) * 16 + e, ⟨rest, c.pos + 4⟩)
    | _, _, _, _ => .error ⟨.invalidEscape, c.pos + 4⟩
  | short =>
    if 4 ≤ byteCount short then .error ⟨.invalidEscape, c.pos + 4⟩
    else .error ⟨.eofString, c.pos + byteCount short⟩

/-- The low half that a high surrogate asks for, after its first four digits. -/
def lowSurrogate (c : Cursor) : Except Mishap (Nat × Cursor) :=
  match c.rest with
  | [] => .error (c.behind .eofString)
  | '\\' :: [] => .error (c.next.behind .eofString)
  | '\\' :: 'u' :: _ => do
    let (n, c) ← hexFour c.next.next
    if 0xDC00 ≤ n && n ≤ 0xDFFF then .ok (n, c) else .error (c.behind .loneSurrogate)
  | '\\' :: _ => .error (c.next.ahead .endOfHexEscape)
  | _ => .error (c.ahead .endOfHexEscape)

/-- The character of an escape with a number. -/
def unicodeEscape (c : Cursor) : Except Mishap (Char × Cursor) := do
  let (n, c) ← hexFour c
  if 0xDC00 ≤ n && n ≤ 0xDFFF then .error (c.behind .loneSurrogate)
  else if 0xD800 ≤ n && n ≤ 0xDBFF then
    let (low, c) ← lowSurrogate c
    .ok (Char.ofNat (0x10000 + (n - 0xD800) * 0x400 + (low - 0xDC00)), c)
  else .ok (Char.ofNat n, c)

/-- The character that a letter names after a backslash. -/
def named? : Char → Option Char
  | '"' => some '"'
  | '\\' => some '\\'
  | '/' => some '/'
  | 'b' => some '\x08'
  | 'f' => some '\x0c'
  | 'n' => some '\n'
  | 'r' => some '\r'
  | 't' => some '\t'
  | _ => none

/-- The character of an escape, after its backslash. -/
def escaped (c : Cursor) : Except Mishap (Char × Cursor) :=
  match c.rest with
  | [] => .error (c.behind .eofString)
  | 'u' :: _ => unicodeEscape c.next
  | x :: _ =>
    match named? x with
    | some y => .ok (y, c.next)
    | none => .error (c.ahead .invalidEscape)

/-- The characters of a string up to its closing quote; `fuel` bounds their number. -/
def stringBody : Nat → Cursor → Except Mishap (List Char × Cursor)
  | 0, c => .error (c.behind .eofString)
  | fuel + 1, c =>
    match c.rest with
    | [] => .error (c.behind .eofString)
    | '"' :: _ => .ok ([], c.next)
    | '\\' :: _ => do
      let (x, c) ← escaped c.next
      let (xs, c) ← stringBody fuel c
      .ok (x :: xs, c)
    | x :: _ =>
      if x.toNat < 0x20 then .error (c.ahead .controlCharacter)
      else do
        let (xs, c) ← stringBody fuel c.next
        .ok (x :: xs, c)

/-- A string, from its opening quote. -/
def readString (c : Cursor) : Except Mishap (String × Cursor) := do
  let (xs, c) ← stringBody c.rest.length c.next
  .ok (String.ofList xs, c)

/-! ## Numbers -/

/-- The digits at the start of a text, and the rest. -/
def digitRun (c : Cursor) : List Char × Cursor :=
  let ds := c.rest.takeWhile Char.isDigit
  (ds, ⟨c.rest.drop ds.length, c.pos + ds.length⟩)

/-- A significand of 64 bits taken on by digits as long as it fits, and the digits left over. -/
def absorb : Nat → List Char → Nat × List Char
  | n, [] => (n, [])
  | n, d :: ds =>
    let m := n * 10 + (d.toNat - 48)
    if m < 0x10000000000000000 then absorb m ds else (n, d :: ds)

/-- What follows the letter of an exponent: the exponent, or none when it exceeds 32 bits, with the
place of the digit at which it does. -/
structure Exponent where
  negative : Bool
  value : Nat
  overflow : Option Nat

/-- The greatest exponent of 32 bits. -/
def greatestExponent : Nat := 0x80000000 - 1

/-- The digits of an exponent taken on while it fits. -/
def exponentDigits (pos : Nat) : Nat → List Char → Nat × Option Nat
  | n, [] => (n, none)
  | n, d :: ds =>
    let m := n * 10 + (d.toNat - 48)
    if m ≤ greatestExponent then exponentDigits (pos + 1) m ds else (n, some (pos + 1))

/-- An exponent, after its letter. -/
def readExponent (c : Cursor) : Except Mishap (Exponent × Cursor) :=
  let (negative, c) :=
    match c.rest with
    | '+' :: _ => (false, c.next)
    | '-' :: _ => (true, c.next)
    | _ => (false, c)
  match digitRun c with
  | ([], c) => .error (if c.rest.isEmpty then c.behind .eofValue else c.ahead .invalidNumber)
  | (ds, after) =>
    let (n, overflow) := exponentDigits c.pos 0 ds
    .ok (⟨negative, n, overflow⟩, after)

/-- The double of a significand, a power of ten from the digits, and an exponent. -/
def scaled (negative : Bool) (significand : Nat) (power : Int) (e : Exponent) (c : Cursor) :
    Except Mishap (Number × Cursor) :=
  match e.overflow with
  | some place =>
    if significand ≠ 0 && !e.negative then .error ⟨.numberOutOfRange, place⟩
    else .ok (.double ⟨if negative then 0x8000000000000000 else 0⟩, c)
  | none =>
    let total := if e.negative then power - e.value else power + e.value
    match Binary64.ofScaled? negative significand.toUInt64 total with
    | some x => .ok (.double x, c)
    | none => .error (c.behind .numberOutOfRange)

/-- The number of an integer literal whose digits all fit. -/
def integer (negative : Bool) (n : Nat) : Number :=
  if !negative then .natural n.toUInt64
  else if n = 0 || 0x8000000000000000 < n then .double ⟨(-n.toUInt64.toFloat).toBits⟩
  else .negSucc (n - 1)

/-- What may follow the digits before the point. -/
def readFraction (negative : Bool) (significand : Nat) (power : Nat) (c : Cursor) :
    Except Mishap (Number × Cursor) :=
  match digitRun c with
  | ([], c) => .error (c.ahead (if c.rest.isEmpty then .eofValue else .invalidNumber))
  | (ds, c) =>
    let (n, left) := absorb significand ds
    let power : Int := power - (ds.length - left.length : Nat)
    match c.rest with
    | 'e' :: _ | 'E' :: _ => do
      let (e, c) ← readExponent c.next
      scaled negative n power e c
    | _ => scaled negative n power ⟨false, 0, none⟩ c

/-- What may follow the digits of an integer: nothing, a fraction, an exponent. Digits that the
significand cannot take count as powers of ten. -/
def readTail (negative : Bool) (ds : List Char) (c : Cursor) : Except Mishap (Number × Cursor) :=
  let (n, left) := absorb 0 ds
  match c.rest with
  | '.' :: _ => readFraction negative n left.length c.next
  | 'e' :: _ | 'E' :: _ => do
    let (e, c) ← readExponent c.next
    scaled negative n left.length e c
  | _ =>
    if left.isEmpty then .ok (integer negative n, c)
    else scaled negative n left.length ⟨false, 0, none⟩ c

/-- The digits of an integer, without a sign. -/
def readDigits (negative : Bool) (c : Cursor) : Except Mishap (Number × Cursor) :=
  match c.rest with
  | [] => .error (c.behind .eofValue)
  | '0' :: d :: _ =>
    if d.isDigit then .error (c.next.ahead .invalidNumber) else readTail negative ['0'] c.next
  | _ =>
    match digitRun c with
    | ([], c) => .error (c.ahead .invalidNumber)
    | (ds, c) => readTail negative ds c

/-- A number. -/
def readNumber (c : Cursor) : Except Mishap (Number × Cursor) :=
  match c.rest with
  | '-' :: _ => readDigits true c.next
  | _ => readDigits false c

/-! ## Passing over a value -/

/-- Past a string, from its opening quote. -/
def skipString (c : Cursor) : Except Mishap Cursor :=
  go c.rest.length c.next
where
  /-- Past the characters up to the closing quote. -/
  go : Nat → Cursor → Except Mishap Cursor
    | 0, c => .error (c.behind .eofString)
    | fuel + 1, c =>
      match c.rest with
      | [] => .error (c.behind .eofString)
      | '"' :: _ => .ok c.next
      | '\\' :: [] => .error (c.next.behind .eofString)
      | '\\' :: 'u' :: _ => do
        let (_, c) ← hexFour c.next.next
        go fuel c
      | '\\' :: x :: _ =>
        if (named? x).isSome then go fuel c.next.next else .error (c.next.ahead .invalidEscape)
      | x :: _ => if x.toNat < 0x20 then .error (c.behind .controlCharacter) else go fuel c.next

/-- Past at least one digit. -/
def skipDigits (c : Cursor) : Except Mishap Cursor :=
  match digitRun c with
  | ([], c) => .error (c.ahead .invalidNumber)
  | (_, c) => .ok c

/-- Past an exponent, if there is one. -/
def skipExponent (c : Cursor) : Except Mishap Cursor :=
  match c.rest with
  | 'e' :: s :: _ | 'E' :: s :: _ => skipDigits (if s = '+' || s = '-' then c.next.next else c.next)
  | 'e' :: _ | 'E' :: _ => skipDigits c.next
  | _ => .ok c

/-- Past a number. -/
def skipNumber (c : Cursor) : Except Mishap Cursor := do
  let c :=
    match c.rest with
    | '-' :: _ => c.next
    | _ => c
  let c ←
    match c.rest with
    | '0' :: d :: _ => if d.isDigit then .error (c.next.ahead .invalidNumber) else .ok c.next
    | _ => skipDigits c
  match c.rest with
  | '.' :: _ => do
    let c ← skipDigits c.next
    skipExponent c
  | _ => skipExponent c

/-- An open container. -/
inductive Bracket where
  | square
  | brace

/-- Its closing bracket. -/
def Bracket.close : Bracket → Char
  | .square => ']'
  | .brace => '}'

/-- The fault when a text ends inside. -/
def Bracket.eof : Bracket → Fault
  | .square => .eofList
  | .brace => .eofObject

/-- What a skipping reader looks for. -/
inductive Awaiting where
  /-- A value. -/
  | value
  /-- What comes first in a container. -/
  | first
  /-- What may follow a value. -/
  | after
  /-- The name of a member. -/
  | name

/-- Past what is awaited and all that completes the open containers, innermost first. -/
def skipOpen : Nat → Awaiting → List Bracket → Cursor → Except Mishap Cursor
  | 0, _, _, c => .error (c.behind .eofValue)
  | fuel + 1, .value, open', c => do
    let c := c.skipBlank
    match c.rest with
    | [] => .error (c.ahead .eofValue)
    | '[' :: _ => skipOpen fuel .first (.square :: open') c.next
    | '{' :: _ => skipOpen fuel .first (.brace :: open') c.next
    | x :: _ =>
      let c ←
        if x = '"' then skipString c
        else if x = 'n' then Cursor.word ['u', 'l', 'l'] c.next
        else if x = 't' then Cursor.word ['r', 'u', 'e'] c.next
        else if x = 'f' then Cursor.word ['a', 'l', 's', 'e'] c.next
        else if x = '-' || x.isDigit then skipNumber c
        else .error (c.ahead .expectedValue)
      skipOpen fuel .after open' c
  | _ + 1, .first, [], c => .ok c
  | fuel + 1, .first, b :: open', c =>
    let c := c.skipBlank
    match c.rest with
    | [] => .error (c.ahead b.eof)
    | x :: _ =>
      if x = b.close then skipOpen fuel .after open' c.next
      else
        match b with
        | .square => skipOpen fuel .value (b :: open') c
        | .brace => skipOpen fuel .name (b :: open') c
  | _ + 1, .after, [], c => .ok c
  | fuel + 1, .after, b :: open', c =>
    let c := c.skipBlank
    match c.rest with
    | [] => .error (c.ahead b.eof)
    | x :: _ =>
      if x = b.close then skipOpen fuel .after open' c.next
      else
        match b with
        | .square =>
          if x = ',' then skipOpen fuel .value (b :: open') c.next
          else .error (c.ahead .expectedCommaOrBracket)
        | .brace =>
          if x = ',' then skipOpen fuel .name (b :: open') c.next
          else .error (c.ahead .expectedCommaOrBrace)
  | fuel + 1, .name, open', c => do
    let c := c.skipBlank
    match c.rest with
    | [] => .error (c.ahead .eofObject)
    | '"' :: _ =>
      let c ← skipString c
      let c := c.skipBlank
      match c.rest with
      | [] => .error (c.ahead .eofObject)
      | ':' :: _ => skipOpen fuel .value open' c.next
      | _ => .error (c.ahead .expectedColon)
    | _ => .error (c.ahead .keyMustBeString)

/-- Past a value that nobody wants. Every second step at least takes a character. -/
def skipValue (c : Cursor) : Except Mishap Cursor :=
  skipOpen (2 * c.rest.length + 3) .value [] c

/-! ## Documents -/

/-- A value as read, and the cursor after it if the reader can go on. -/
abbrev Outcome := Node × Option Cursor

/-- A scalar as read. -/
def scalar (c : Cursor) (r : Except Mishap (α × Cursor)) (build : Span → α → Node) : Outcome :=
  match r with
  | .ok (a, after) => (build ⟨c.pos, after.pos⟩ a, some after)
  | .error m => (.broken c.pos m, none)

/-- The next item of an array, or how the items end. -/
def nextItem (first : Bool) (c : Cursor) : Except Ending Cursor :=
  let c := c.skipBlank
  match c.rest with
  | [] => .error (.cut (c.ahead .eofList))
  | ']' :: _ => .error (.closed (c.pos + 1))
  | x :: _ =>
    if first then .ok c
    else if x = ',' then
      let c := c.next.skipBlank
      match c.rest with
      | [] => .error (.cut (c.ahead .eofValue))
      | ']' :: _ => .error (.cut (c.ahead .trailingComma))
      | _ => .ok c
    else .error (.cut (c.ahead .expectedCommaOrBracket))

/-- The next name of an object, or how the members end. -/
def nextName (first : Bool) (c : Cursor) : Except Ending Cursor :=
  let name (c : Cursor) : Except Ending Cursor :=
    match c.rest with
    | '"' :: _ => .ok c
    | '}' :: _ => .error (.cut (c.ahead .trailingComma))
    | [] => .error (.cut (c.ahead .eofValue))
    | _ => .error (.cut (c.ahead .keyMustBeString))
  let c := c.skipBlank
  match c.rest with
  | [] => .error (.cut (c.ahead .eofObject))
  | '}' :: _ => .error (.closed (c.pos + 1))
  | x :: _ =>
    if first then name c
    else if x = ',' then name c.next.skipBlank
    else .error (.cut (c.ahead .expectedCommaOrBrace))

/-- Where reading goes on after a container that ended so: past its closing bracket. -/
def Ending.after (e : Ending) (c : Cursor) : Option Cursor :=
  match e with
  | .closed _ => some c.skipBlank.next
  | _ => none

/-- The items of an array from a cursor, each read by `value`. -/
def readItems (value : Cursor → Outcome) :
    Nat → Bool → Cursor → List Node × Ending × Option Cursor
  | 0, _, c => ([], .cut (c.ahead .eofList), none)
  | fuel + 1, first, c =>
    match nextItem first c with
    | .error e => ([], e, e.after c)
    | .ok c =>
      match value c with
      | (n, none) => ([n], .inside, none)
      | (n, some c) =>
        let (ns, e, after) := readItems value fuel false c
        (n :: ns, e, after)

/-- The colon after a name. -/
def readColon (c : Cursor) : Except Mishap Cursor :=
  let c := c.skipBlank
  match c.rest with
  | [] => .error (c.ahead .eofObject)
  | ':' :: _ => .ok c.next
  | _ => .error (c.ahead .expectedColon)

/-- The place of a complaint about a name that has been read: past blanks and, if the object ends
there, past its closing brace. -/
def namePlace (c : Cursor) : Nat :=
  let c := c.skipBlank
  match c.rest with
  | '}' :: _ => c.pos + 1
  | _ => c.pos

/-- The value of a member, from the colon: the value as read, why it cannot be passed over, and the
cursor after it. -/
def readMemberValue (value : Cursor → Outcome) (c : Cursor) :
    Node × Option Mishap × Option Cursor :=
  match readColon c with
  | .error m => (.broken c.pos m, some m, none)
  | .ok c =>
    match value c with
    | (n, some c) => (n, none, some c)
    | (n, none) =>
      match skipValue c with
      | .ok c => (n, none, some c)
      | .error m => (n, some m, none)

/-- The members of an object from a cursor, each value read by `value`. -/
def readMembers (value : Cursor → Outcome) :
    Nat → Bool → Cursor → List (Member Node) × Ending × Option Cursor
  | 0, _, c => ([], .cut (c.ahead .eofObject), none)
  | fuel + 1, first, c =>
    match nextName first c with
    | .error e => ([], e, e.after c)
    | .ok c =>
      match readString c with
      | .error m => ([], .cut m, none)
      | .ok (name, c) =>
        match readMemberValue value c with
        | (n, why, none) => ([⟨name, namePlace c, n, why⟩], .inside, none)
        | (n, why, some after) =>
          let (ms, e, after) := readMembers value fuel false after
          (⟨name, namePlace c, n, why⟩ :: ms, e, after)

/-- A value, when `nested` reads what stands inside a container; without `nested` no container may
be opened any more. -/
def readValue (nested : Option (Cursor → Outcome)) (c : Cursor) : Outcome :=
  let c := c.skipBlank
  match c.rest with
  | [] => (.broken c.pos (c.ahead .eofValue), none)
  | '[' :: _ =>
    match nested with
    | none => (.array c.pos [] (.cut (c.ahead .recursionLimit)), none)
    | some value =>
      let (items, e, after) := readItems value c.rest.length true c.next
      (.array c.pos items e, after)
  | '{' :: _ =>
    match nested with
    | none => (.object c.pos [] (.cut (c.ahead .recursionLimit)), none)
    | some value =>
      let (members, e, after) := readMembers value c.rest.length true c.next
      (.object c.pos members e, after)
  | 'n' :: _ => scalar c ((Cursor.word ['u', 'l', 'l'] c.next).map ((), ·)) fun s _ => .null s
  | 't' :: _ => scalar c ((Cursor.word ['r', 'u', 'e'] c.next).map (true, ·)) .bool
  | 'f' :: _ => scalar c ((Cursor.word ['a', 'l', 's', 'e'] c.next).map (false, ·)) .bool
  | '"' :: _ => scalar c (readString c) .string
  | x :: _ =>
    if x = '-' || x.isDigit then scalar c (readNumber c) .number
    else (.broken c.pos (c.ahead .expectedValue), none)

/-- A value that may open `depth` containers one inside the other. -/
def readNode : Nat → Cursor → Outcome
  | 0 => readValue none
  | depth + 1 => readValue (some (readNode depth))

/-- How many containers may be open at once. -/
def nesting : Nat := 127

/-- What stands after the value of a text, apart from blanks. -/
def leftover? (c : Cursor) : Option Mishap :=
  let c := c.skipBlank
  if c.rest.isEmpty then none else some (c.ahead .trailingCharacters)

/-- A text as read. -/
def Document.read (text : String) : Document :=
  match readNode nesting (Cursor.ofString text) with
  | (n, none) => ⟨n, none⟩
  | (n, some c) => ⟨n, leftover? c⟩

end Provision.Json
