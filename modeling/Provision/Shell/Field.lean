import Provision.Shell.Syntax

/-!
# Fields

What words expand to. Every byte of a field knows whether it was quoted: a quoted byte has no meaning
in a pattern. The values of parameters are split into fields where separators stand in them.
-/

namespace Provision.Shell

/-- A byte and whether it was quoted. -/
structure Glyph where
  byte : Char
  quoted : Bool
  deriving DecidableEq, Repr, Inhabited

/-- Bytes that may have been quoted. -/
abbrev Glyphs := List Glyph

/-- Some bytes, all quoted or none. -/
def Glyphs.ofBytes (quoted : Bool) (bytes : Bytes) : Glyphs := bytes.map (⟨·, quoted⟩)

/-- The bytes without their quotes. -/
def Glyphs.bytes (gs : Glyphs) : Bytes := gs.map Glyph.byte

/-- The bytes that separate fields: blanks, of which any number separates once, and others. -/
structure Separators where
  blanks : Bytes
  others : Bytes
  /-- What stands between parameters that are joined. -/
  joint : Bytes

/-- The separators that a parameter tells. -/
def Separators.ofParameter (value : Option Bytes) : Separators :=
  match value with
  | none => ⟨[' ', '\t', '\n'], [], [' ']⟩
  | some v =>
    let isBlank (c : Char) : Bool := c = ' ' || c = '\t' || c = '\n'
    ⟨v.filter isBlank, v.filter (!isBlank ·), v.take 1⟩

/-- The fields of a word: those complete, latest first, and the bytes of the one begun, latest
first. -/
structure Fields where
  complete : List Glyphs
  begun : Option Glyphs
  /-- Whether blanks were the last separator, so that another one belongs to them. -/
  blank : Bool
  deriving Inhabited

namespace Fields

/-- No field. -/
def empty : Fields := ⟨[], none, false⟩

/-- The fields with some bytes added to the one begun, or beginning one. -/
def add (f : Fields) (quoted : Bool) (bytes : Bytes) : Fields :=
  { f with
    begun := some (bytes.foldl (fun gs c => ⟨c, quoted⟩ :: gs) (f.begun.getD []))
    blank := false }

/-- The fields with some glyphs added. -/
def addGlyphs (f : Fields) (gs : Glyphs) : Fields :=
  { f with begun := some (gs.reverse ++ f.begun.getD []), blank := false }

/-- The fields with the one begun completed. -/
def close (f : Fields) : Fields :=
  match f.begun with
  | some field => ⟨field.reverse :: f.complete, none, f.blank⟩
  | none => f

/-- The fields with a byte of an unquoted value added, which may separate. -/
def addByte (s : Separators) (f : Fields) (c : Char) : Fields :=
  if s.blanks.contains c then
    match f.begun with
    | some _ => { f.close with blank := true }
    | none => f
  else if s.others.contains c then
    match f.begun, f.blank with
    | some _, _ => { f.close with blank := false }
    | none, true => { f with blank := false }
    | none, false => { f with complete := [] :: f.complete }
  else { f with begun := some (⟨c, false⟩ :: f.begun.getD []), blank := false }

/-- The fields with an unquoted value added. -/
def addSplit (s : Separators) (f : Fields) (bytes : Bytes) : Fields :=
  bytes.foldl (addByte s) f

/-- The fields with several quoted values added, each for itself. -/
def addEach (f : Fields) : List Bytes → Fields
  | [] => f
  | [v] => f.add true v
  | v :: vs => addEach (f.add true v).close vs

/-- The fields with several unquoted values added, each for itself. -/
def addEachSplit (s : Separators) (f : Fields) : List Bytes → Fields
  | [] => f
  | [v] => f.addSplit s v
  | v :: vs =>
    let g := f.addSplit s v
    addEachSplit s { g.close with blank := false } vs

/-- The fields in order. -/
def toList (f : Fields) : List Glyphs := f.close.complete.reverse

/-- All fields as one, with a text between them. -/
def joined (f : Fields) (joint : Bytes) : Glyphs :=
  (Glyphs.ofBytes true joint).intercalate f.toList

end Fields

end Provision.Shell
