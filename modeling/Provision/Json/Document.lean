import Provision.Json.Value
import Provision.Text.Cursor

/-!
# Documents

A document is a Json text as it was read: every value with the place where it stands and, where the
text stops being Json, the mishap that stopped the reader. A document keeps repeated members and
the order of all members, so that whoever gives it a meaning meets shape errors and mishaps in the
order of the text, whichever comes first.

Places are counts of bytes from the start of the text.
-/

namespace Provision.Json

/-- What is wrong with a text that is no Json. -/
inductive Fault where
  | eofValue
  | eofList
  | eofObject
  | eofString
  | expectedValue
  | expectedIdent
  | expectedColon
  | expectedCommaOrBracket
  | expectedCommaOrBrace
  | trailingComma
  | trailingCharacters
  | keyMustBeString
  | invalidNumber
  | numberOutOfRange
  | invalidEscape
  | endOfHexEscape
  | loneSurrogate
  | controlCharacter
  | recursionLimit
  deriving DecidableEq, Repr

namespace Fault

/-- The text of a fault. -/
def message : Fault → String
  | eofValue => "EOF while parsing a value"
  | eofList => "EOF while parsing a list"
  | eofObject => "EOF while parsing an object"
  | eofString => "EOF while parsing a string"
  | expectedValue => "expected value"
  | expectedIdent => "expected ident"
  | expectedColon => "expected `:`"
  | expectedCommaOrBracket => "expected `,` or `]`"
  | expectedCommaOrBrace => "expected `,` or `\x7d`"
  | trailingComma => "trailing comma"
  | trailingCharacters => "trailing characters"
  | keyMustBeString => "key must be a string"
  | invalidNumber => "invalid number"
  | numberOutOfRange => "number out of range"
  | invalidEscape => "invalid escape"
  | endOfHexEscape => "unexpected end of hex escape"
  | loneSurrogate => "lone leading surrogate in hex escape"
  | controlCharacter => "control character (\\u0000-\\u001F) found while parsing a string"
  | recursionLimit => "recursion limit exceeded"

/-- Whether the text ended too early. -/
def isEnd : Fault → Bool
  | eofValue | eofList | eofObject | eofString => true
  | _ => false

end Fault

/-- A fault and its place: the bytes up to and including the one that it is about. -/
structure Mishap where
  fault : Fault
  place : Nat
  deriving DecidableEq, Repr

/-- Line and column of a place: lines count from one, columns count the bytes after the last line
break before the place. -/
def lineColumn (text : String) (place : Nat) : Nat × Nat :=
  go text.toList 0 1 0
where
  /-- `seen` bytes were passed, `line` is the line reached and `start` the place where it starts. -/
  go : List Char → Nat → Nat → Nat → Nat × Nat
    | [], _, line, start => (line, place - start)
    | c :: cs, seen, line, start =>
      if place ≤ seen then (line, place - start)
      else if c = '\n' then go cs (seen + 1) (line + 1) (seen + 1)
      else go cs (seen + c.utf8Size) line start

/-- How the items or members of a container end. -/
inductive Ending where
  /-- With the closing bracket, which is the byte before `stop`. -/
  | closed (stop : Nat)
  /-- The text goes wrong between two items or members. -/
  | cut (m : Mishap)
  /-- The text goes wrong within the last item or member. -/
  | inside
  deriving DecidableEq, Repr

/-- A member of an object as read. -/
structure Member (ν : Type) where
  name : String
  /-- The place of a complaint about the name. -/
  place : Nat
  value : ν
  /-- Why the value cannot even be passed over, if so. A value that is not understood, such as a
  number out of range, can be. -/
  unskippable : Option Mishap

/-- A value as read. -/
inductive Node where
  | null (span : Span)
  | bool (span : Span) (b : Bool)
  | number (span : Span) (n : Number)
  | string (span : Span) (s : String)
  | array (start : Nat) (items : List Node) (ending : Ending)
  | object (start : Nat) (members : List (Member Node)) (ending : Ending)
  /-- No value can be read here. -/
  | broken (start : Nat) (m : Mishap)

namespace Node

/-- The place of the first byte. -/
def start : Node → Nat
  | null s | bool s _ | number s _ | string s _ => s.start
  | array n _ _ | object n _ _ | broken n _ => n

mutual

/-- The value of a document, or the first mishap in it. Of members with one name the last counts. -/
def toJson : Node → Except Mishap Json
  | null _ => .ok .null
  | bool _ b => .ok (.bool b)
  | number _ n => .ok (.number n)
  | string _ s => .ok (.string s)
  | array _ items ending => do
    let js ← itemsToJson items
    match ending with
    | .cut m => .error m
    | _ => .ok (.array js)
  | object _ members ending => do
    let ms ← membersToJson members []
    match ending with
    | .cut m => .error m
    | _ => .ok (.object ms)
  | broken _ m => .error m

/-- The values of the items. -/
def itemsToJson : List Node → Except Mishap (List Json)
  | [] => .ok []
  | n :: ns => do
    let j ← toJson n
    let js ← itemsToJson ns
    .ok (j :: js)

/-- The values of the members, put into a list of members one by one. -/
def membersToJson : List (Member Node) → List (String × Json) → Except Mishap (List (String × Json))
  | [], done => .ok done
  | ⟨name, _, value, _⟩ :: rest, done => do
    let j ← toJson value
    membersToJson rest (insertEntry name j done)

end

mutual

/-- A value as a document without places. -/
def ofJson : Json → Node
  | .null => .null ⟨0, 0⟩
  | .bool b => .bool ⟨0, 0⟩ b
  | .number n => .number ⟨0, 0⟩ n
  | .string s => .string ⟨0, 0⟩ s
  | .array items => .array 0 (itemsOfJson items) (.closed 0)
  | .object members => .object 0 (membersOfJson members) (.closed 0)

/-- Items as documents. -/
def itemsOfJson : List Json → List Node
  | [] => []
  | j :: js => ofJson j :: itemsOfJson js

/-- Members as documents. -/
def membersOfJson : List (String × Json) → List (Member Node)
  | [] => []
  | (name, j) :: rest => ⟨name, 0, ofJson j, none⟩ :: membersOfJson rest

end

end Node

/-- A text as read: its value, and what follows the value against the rules. -/
structure Document where
  root : Node
  leftover : Option Mishap

end Provision.Json
