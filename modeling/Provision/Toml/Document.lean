import Provision.Text.Cursor
import Provision.Toml.Scalar

/-!
# Toml documents

A value with the place where it stands. A table may be written in several pieces, so it remembers
how it came about: what may still be added to it depends on that.
-/

namespace Provision.Toml

/-- A name with its place. -/
structure Key where
  span : Span
  name : String
  deriving DecidableEq, Repr

/-- How a table came about. -/
inductive Origin where
  /-- By a header of its own, or as the document itself. -/
  | header
  /-- By the header of a table inside it. -/
  | passed
  /-- By a dotted key. -/
  | dotted
  /-- Between braces. -/
  | braces
  deriving DecidableEq, Repr

/-- A value. -/
inductive Value where
  | scalar (span : Span) (s : Scalar)
  | string (span : Span) (s : String)
  | array (span : Span) (items : List Value)
  /-- Tables that headers between double brackets add one by one. -/
  | tables (span : Option Span) (items : List Value)
  | table (span : Option Span) (origin : Origin) (entries : List (Key × Value))

/-- The entries of a table. -/
abbrev Entries := List (Key × Value)

/-- Where a value stands, if it stands in one place. -/
def Value.span? : Value → Option Span
  | scalar s _ | string s _ | array s _ => some s
  | tables s _ | table s _ _ => s

/-- The value of a name. -/
def valueOf? (name : String) (es : Entries) : Option Value :=
  (List.find? (fun e : Key × Value => e.1.name = name) es).map Prod.snd

/-- The entries with another value for a name that they have. -/
def replaceValue (name : String) (v : Value) (es : Entries) : Entries :=
  es.map fun e => if e.1.name = name then (e.1, v) else e

/-- The entries without a name. -/
def eraseName (name : String) (es : Entries) : Entries := es.filter (·.1.name ≠ name)

/-- The part of a document from one header to the next. -/
inductive Header where
  /-- What stands before the first header. -/
  | root
  /-- A table of its own. -/
  | single (span : Span) (path : List Key) (last : Key)
  /-- One more of a list of tables. -/
  | item (span : Span) (path : List Key) (last : Key)

/-- A value under a dotted key: the names before the last one, and the last one. -/
structure Assignment where
  path : List Key
  key : Key
  value : Value

/-- A header with what is assigned under it. -/
structure Section where
  header : Header
  assignments : List Assignment

end Provision.Toml
