import Provision.Shell.Syntax

/-!
# The text of scripts

A script is read from its start, one command at a time. A `Source` is what is left of it, with the
documents that were announced on the current line and stand on the following ones.
-/

namespace Provision.Shell

/-- A smallest piece of a script. -/
inductive Token where
  | newline
  | ending
  | word (raw : Bytes)
  | operator (name : Bytes)
  | redirection (name : Bytes)
  deriving DecidableEq, Repr

/-- Why a text is no script. -/
inductive SyntaxCause where
  /-- A token that cannot stand here, and what should stand here if that is only one thing. -/
  | unexpected (token : Token) (expected : Option String)
  /-- A quote or bracket that is not closed, opened on a line. -/
  | unclosed (mark : Bytes) (line : Nat)
  /-- Something else, said in one line or more; the last may be about the line of the script. -/
  | other (lines : List String) (echoes : Bool)
  deriving DecidableEq, Repr

/-- Where and why a text is no script. -/
structure SyntaxFault where
  cause : SyntaxCause
  line : Nat
  /-- The line of the script. -/
  text : Bytes
  /-- How a shell ends that was given the script. -/
  status : Nat
  deriving DecidableEq, Repr

/-- A document that was announced. -/
structure Awaited where
  index : Nat
  delimiter : Bytes
  /-- Whether tabs at the start of its lines do not count. -/
  stripped : Bool
  /-- Whether it is expanded. -/
  expanded : Bool
  line : Nat

/-- The rest of a script. -/
structure Source where
  dialect : Dialect
  /-- Whether patterns have groups. -/
  extended : Bool
  rest : Bytes
  line : Nat
  /-- The rest at the start of the line. -/
  lineStart : Bytes
  /-- The documents announced, latest first. -/
  awaited : List Awaited
  /-- The documents read, by their indices. -/
  documents : List (Nat × Word)
  nextDocument : Nat
  /-- Warnings, latest first. -/
  warnings : List (Nat × String)

/-- The text of a script as the lines of it, each with its end. -/
def completeLines (dialect : Dialect) (text : Bytes) : Bytes :=
  match dialect, text.getLast? with
  | .bash, some '\n' => text
  | .bash, some _ => text ++ ['\n']
  | _, _ => text

/-- The source of a script, whose lines are counted from `line`. -/
def Source.ofText (dialect : Dialect) (extended : Bool) (nextDocument line : Nat) (text : Bytes) :
    Source :=
  let text := completeLines dialect text
  ⟨dialect, extended, text, line, text, [], [], nextDocument, []⟩

/-- A reader of a script. -/
abbrev Reader := StateT Source (Except SyntaxFault)

/-- The rest of the script. -/
def look : Reader Bytes := do return (← get).rest

/-- Whether the script is for the shell of many features. -/
def isBash : Reader Bool := do return (← get).dialect = .bash

/-- Past the next byte. -/
def skip : Reader Unit := modify fun s =>
  match s.rest with
  | [] => s
  | '\n' :: rest => { s with rest, line := s.line + 1, lineStart := rest }
  | _ :: rest => { s with rest }

/-- Past some bytes. -/
def skipMany : Nat → Reader Unit
  | 0 => pure ()
  | n + 1 => do
    skip
    skipMany n

/-- The bytes with a property that come next. -/
def takeBytes (p : Char → Bool) : Reader Bytes := do
  let taken := (← look).takeWhile p
  skipMany taken.length
  pure taken

/-- The script is at fault here. -/
def refuse (cause : SyntaxCause) : Reader α := do
  let s ← get
  throw ⟨cause, s.line, s.lineStart.takeWhile (· ≠ '\n'), 2⟩

/-- Whether a byte ends a word. -/
def isMeta (c : Char) : Bool :=
  c = ' ' || c = '\t' || c = '\n' || c = ';' || c = '&' || c = '|' || c = '<' || c = '>' ||
    c = '(' || c = ')'

/-- The operators of a dialect that control commands, longest first. -/
def controlOperators : Dialect → List Bytes
  | .bash => [";;&", "&&", "||", ";;", ";&", "|&", "(", ")", "|", "&", ";"].map String.toList
  | .plain => ["&&", "||", ";;", "(", ")", "|", "&", ";"].map String.toList

/-- The operators of a dialect that redirect, longest first. -/
def redirectionOperators : Dialect → List Bytes
  | .bash =>
    ["&>>", "<<<", "<<-", "&>", "<<", "<&", "<>", ">>", ">&", ">|", "<", ">"].map String.toList
  | .plain => ["<<-", "<<", "<&", "<>", ">>", ">&", ">|", "<", ">"].map String.toList

/-- The operator that a text starts with. -/
def operatorAt (operators : List Bytes) (cs : Bytes) : Option Bytes :=
  operators.find? (·.isPrefixOf cs)

/-- Past blanks and a comment within a line, and past line breaks behind a backslash. -/
def skipBlanks : Nat → Reader Unit
  | 0 => pure ()
  | fuel + 1 => do
    match ← look with
    | ' ' :: _ | '\t' :: _ =>
      skip
      skipBlanks fuel
    | '\\' :: '\n' :: _ =>
      skipMany 2
      skipBlanks fuel
    | '#' :: _ =>
      let _ ← takeBytes (· ≠ '\n')
    | _ => pure ()

/-- Past blanks. -/
def blanks : Reader Unit := do skipBlanks ((← look).length + 1)

/-- A fuel that no reader of the rest of the script uses up. -/
def ample : Reader Nat := do return 2 * (← look).length + 10

/-- Whether a byte can start a name. -/
def isNameStart (c : Char) : Bool := c.isAlpha || c = '_'

/-- Whether a byte can stand in a name. -/
def isNameChar (c : Char) : Bool := c.isAlphanum || c = '_'

/-- Whether some bytes are a name. -/
def isName (cs : Bytes) : Bool :=
  match cs with
  | c :: rest => isNameStart c && rest.all isNameChar
  | [] => false

end Provision.Shell
