import Provision.Text.Quoted
import Provision.Toml.Document

/-!
# Settings out of Toml

A group of settings is read from a table, its entries in their order and unknown ones passed over,
or from an array of its settings in declaration order. The first value that is no setting is
refused, with the place where it stands; `Refusal.message` shows that place in its line.
-/

namespace Provision.Toml

/-- Why a value is not what is expected. -/
inductive Complaint where
  | invalidType (found : Value) (expected : String)
  /-- A number below zero. -/
  | negative (n : Int) (expected : String)
  | invalidLength (length : Nat) (expected : String)

/-- The text of a double: all digits, at least one of them after the point. -/
def doubleText (x : Json.Binary64) : String :=
  if x.biased = 2047 then
    if x.fraction ≠ 0 then "NaN" else if x.negative then "-inf" else "inf"
  else String.ofList (x.write ⟨-400, 400⟩)

/-- What a value is. -/
def Value.describe : Value → String
  | .scalar _ (.integer n) => "integer `" ++ toString n ++ "`"
  | .scalar _ (.double x) => "floating point `" ++ doubleText x ++ "`"
  | .scalar _ (.bool b) => "boolean `" ++ toString b ++ "`"
  | .scalar _ .datetime => "map"
  | .string _ s => "string " ++ Text.quoted s
  | .array _ _ | .tables _ _ => "sequence"
  | .table _ _ _ => "map"

/-- The text of a complaint. -/
def Complaint.message : Complaint → String
  | invalidType found expected =>
    "invalid type: " ++ found.describe ++ ", expected " ++ expected
  | negative n expected => "invalid value: integer `" ++ toString n ++ "`, expected " ++ expected
  | invalidLength n expected => "invalid length " ++ toString n ++ ", expected " ++ expected

/-- A complaint with the place of the value, once that is known. -/
structure Refusal where
  complaint : Complaint
  span : Option Span

/-- The refusal with a place, if it has none yet. -/
def Refusal.placed (r : Refusal) (span : Option Span) : Refusal := { r with span := r.span.or span }

/-- The value is not what is expected. -/
def Value.unexpected (v : Value) (expected : String) : Except Refusal α :=
  .error ⟨.invalidType v expected, v.span?⟩

/-- A truth value. -/
def Value.bool : Value → Except Refusal Bool
  | .scalar _ (.bool b) => .ok b
  | v => v.unexpected "a boolean"

/-- A text. -/
def Value.text : Value → Except Refusal String
  | .string _ s => .ok s
  | v => v.unexpected "a string"

/-- A natural number. -/
def Value.natural : Value → Except Refusal UInt64
  | .scalar span (.integer n) =>
    match n with
    | .ofNat k => .ok k.toUInt64
    | .negSucc _ => .error ⟨.negative n "u64", some span⟩
  | v => v.unexpected "u64"

/-- One setting of a group. -/
structure Setting (α : Type) where
  name : String
  /-- The group with the setting read from a value. -/
  set : α → Value → Except Refusal α
  /-- Whether an array may end before it. -/
  mayBeMissing : Bool

/-- The group with the settings of the entries. -/
def setEntries (settings : List (Setting α)) (start : α) (es : Entries) : Except Refusal α :=
  es.foldlM (fun a e =>
    match settings.find? (·.name = e.1.name) with
    | none => .ok a
    | some s => (s.set a e.2).mapError (·.placed (e.2.span?.or (some e.1.span)))) start

/-- How an array of settings announces its length. -/
def expectedLength (name : String) (count : Nat) : String :=
  "struct " ++ name ++ " with " ++ toString count ++
    (if count = 1 then " element" else " elements")

/-- The group with the settings of the items, in declaration order, after `taken` of them. -/
def setItems (name : String) (count : Nat) (span : Option Span) :
    Nat → List (Setting α) → α → List Value → Except Refusal α
  | _, [], a, _ => .ok a
  | taken, s :: settings, a, v :: vs => do
    let a ← s.set a v
    setItems name count span (taken + 1) settings a vs
  | taken, s :: settings, a, [] =>
    if s.mayBeMissing then setItems name count span (taken + 1) settings a []
    else .error ⟨.invalidLength taken (expectedLength name count), span⟩

/-- A group of settings. -/
def Value.group (name : String) (settings : List (Setting α)) (start : α) :
    Value → Except Refusal α
  | .table _ _ es => setEntries settings start es
  | .array span items => setItems name settings.length (some span) 0 settings start items
  | .tables span items => setItems name settings.length span 0 settings start items
  | .scalar _ .datetime => .ok start
  | v => v.unexpected ("struct " ++ name)

/-- Line, column and text of the line of a place. Lines and columns count from zero, columns count
characters; the place after the last character of a text counts as on the last line. -/
structure Position where
  line : Nat
  column : Nat
  content : List Char

/-- The position of a place. -/
def position (text : String) (place : Nat) : Position :=
  go text.toList 0 0 text.toList 0
where
  /-- `seen` bytes were passed; `line` is the line reached, which starts with the characters of
  `start`, and `column` counts those of it that were passed. -/
  go : List Char → Nat → Nat → List Char → Nat → Position
    | [], _, line, start, column => ⟨line, column, start.takeWhile (· ≠ '\n')⟩
    | c :: cs, seen, line, start, column =>
      if place ≤ seen then ⟨line, column, start.takeWhile (· ≠ '\n')⟩
      else if c = '\n' then go cs (seen + 1) (line + 1) cs 0
      else go cs (seen + c.utf8Size) line start (column + 1)

/-- How many marks stand under a line: one for every byte of the value that is on the line. -/
def markCount (span : Span) (p : Position) : Nat :=
  max 1 (min (span.stop - span.start) ((p.content.map Char.utf8Size).foldl (· + ·) 0 - p.column))

/-- The text of a refusal: the place of the value in its line, and the complaint. -/
def Refusal.message (text : String) (r : Refusal) : String :=
  let picture :=
    match r.span with
    | none => ""
    | some span =>
      let p := position text span.start
      let number := toString (p.line + 1)
      let margin := "".pushn ' ' (number.length + 1)
      "TOML parse error at line " ++ number ++ ", column " ++ toString (p.column + 1) ++ "\n" ++
        margin ++ "|\n" ++
        number ++ " | " ++ String.ofList p.content ++ "\n" ++
        margin ++ "|" ++ "".pushn ' ' (p.column + 1) ++ "".pushn '^' (markCount span p) ++ "\n"
  picture ++ r.complaint.message ++ "\n"

end Provision.Toml
