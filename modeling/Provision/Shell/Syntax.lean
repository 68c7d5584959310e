import Provision.Text.Bytes

/-!
# Shell scripts

The syntax of scripts: words made of parts that are expanded when a command runs, and commands made
of words. A shell knows bytes and no characters.
-/

namespace Provision.Shell

/-- The shells that scripts are written for. -/
inductive Dialect where
  /-- The one of many features. -/
  | bash
  /-- The plain one. -/
  | plain
  deriving DecidableEq, Repr, Inhabited

/-- Which matches of a pattern are replaced. -/
inductive Extent where
  | first
  | all
  | atStart
  | atEnd
  deriving DecidableEq, Repr

/-- How letters are changed. -/
inductive CaseChange where
  | upper
  | lower
  | toggle
  deriving DecidableEq, Repr

/-- How a redirection changes a file descriptor. -/
inductive Direction where
  | read
  | write
  /-- To write even what must not be overwritten. -/
  | clobber
  | append
  | readWrite
  /-- It becomes the same as another descriptor, for reading or for writing. -/
  | duplicateIn
  | duplicateOut
  /-- It reads the word itself. -/
  | text
  /-- It reads a text that stands on the following lines. -/
  | document (index : Nat)
  deriving DecidableEq, Repr

/-- The operators of a condition on two words. -/
inductive Comparison where
  | matches
  | differs
  | isMatchedBy
  | before
  | after
  /-- An operator of a dash and letters. -/
  | named (name : Bytes)
  deriving DecidableEq, Repr

/-- What follows the commands of a clause that was chosen. -/
inductive ClauseEnd where
  | stop
  /-- The commands of the next clause. -/
  | fallThrough
  /-- The next clause that matches. -/
  | test
  deriving DecidableEq, Repr

mutual

/-- A part of a word. -/
inductive Part where
  /-- Written plainly: open to patterns. -/
  | plain (s : Bytes)
  /-- Written behind a backslash or between single quotes. -/
  | literal (s : Bytes)
  /-- Written between double quotes. -/
  | quoted (parts : List Part)
  | parameter (target : Target) (use : Use)
  /-- Something between braces after a dollar sign that means nothing. -/
  | bad (text : Bytes)
  /-- The output of a command, which starts on a line. -/
  | output (line : Nat) (c : Command)
  /-- The output of the commands of a text. -/
  | outputOf (text : Bytes)
  | arithmetic (parts : List Part)
  /-- The name of a file that a command writes or reads. -/
  | process (writes : Bool) (c : Command)

/-- A parameter or an element of one. -/
inductive Target where
  | mk (name : Bytes) (index : Index) (indirect : Bool)

/-- Which elements are meant. -/
inductive Index where
  | none
  /-- All, each for itself. -/
  | each
  /-- All, joined. -/
  | joined
  | element (word : List Part)

/-- What is made of the value of a parameter. -/
inductive Use where
  | value
  | length
  /-- The indices instead of the values. -/
  | indices
  /-- The names that start like this one; each for itself or joined. -/
  | names (joined : Bool)
  /-- A word in place of a value that is missing, or also of an empty one. -/
  | default (orEmpty : Bool) (word : List Part)
  /-- The same, and the parameter takes on the word. -/
  | assign (orEmpty : Bool) (word : List Part)
  /-- The script ends with the word for a message. -/
  | insist (orEmpty : Bool) (word : List Part)
  /-- A word in place of a value that is there, or also not empty. -/
  | alternative (orEmpty : Bool) (word : List Part)
  /-- The value without a matching end or start, the shortest or the longest. -/
  | drop (fromEnd longest : Bool) (pattern : List Part)
  | replace (extent : Extent) (pattern replacement : List Part)
  | change (change : CaseChange) (all : Bool) (pattern : List Part)
  | slice (offset : List Part) (length : Option (List Part))
  | transform (operator : Char)

/-- Where a descriptor leads while a command runs. -/
inductive Redirection where
  | mk (descriptor : Nat) (direction : Direction) (word : List Part)
  /-- A descriptor that is chosen freely and kept in a variable. -/
  | kept (name : Bytes) (direction : Direction) (word : List Part)
  /-- Output and diagnostics together. -/
  | both (append : Bool) (word : List Part)

/-- A parameter that is set. -/
inductive Assignment where
  | text (name : Bytes) (index : Option (List Part)) (append : Bool) (word : List Part)
  | list (name : Bytes) (append : Bool) (items : List Item)

/-- An element of a list that is assigned. -/
inductive Item where
  | word (parts : List Part)
  | at (index : List Part) (append : Bool) (parts : List Part)

/-- A word of a command as it is written, or an assignment that stands in its place. -/
inductive Argument where
  | word (raw : Bytes) (parts : List Part)
  | assignment (raw : Bytes) (a : Assignment) (parts : List Part)

/-- A condition between double brackets. -/
inductive Condition where
  | word (parts : List Part)
  | unary (operator : Bytes) (word : List Part)
  | binary (operator : Comparison) (shown : Bytes) (a b : List Part)
  | not (c : Condition)
  | and (a b : Condition)
  | or (a b : Condition)
  | grouped (c : Condition)

/-- A clause of a selection. -/
inductive Clause where
  | mk (patterns : List (List Part)) (body : Command) (ending : ClauseEnd)

/-- A command. -/
inductive Command where
  | simple (line : Nat) (assignments : List Assignment) (words : List Argument)
    (redirections : List Redirection)
  | pipeline (negated timed : Bool) (commands : List Command)
  | both (a b : Command)
  | either (a b : Command)
  | sequence (commands : List Command)
  | background (c : Command)
  | subshell (c : Command)
  | group (c : Command)
  | redirected (c : Command) (redirections : List Redirection)
  | branch (branches : List (Command × Command)) (otherwise : Option Command)
  /-- Repeated while the condition succeeds, or until it does. -/
  | repeated (isUntil : Bool) (condition body : Command)
  /-- Without words it runs over the positional parameters. -/
  | each (line : Nat) (name : Bytes) (words : Option (List (List Part))) (body : Command)
  /-- The same, with a choice of the user. -/
  | menu (line : Nat) (name : Bytes) (words : Option (List (List Part))) (body : Command)
  /-- Repeated with expressions to start, to test and to go on. -/
  | count (line : Nat) (start test next : List Part) (body : Command)
  | select (line : Nat) (word : List Part) (clauses : List Clause)
  | condition (line : Nat) (c : Condition)
  | calculation (line : Nat) (parts : List Part)
  | function (name : Bytes) (body : Command)

end

/-- A word, in parts. -/
abbrev Word := List Part

/-- A command that does nothing. -/
def Command.nothing : Command := .sequence []

instance : Inhabited Command := ⟨.nothing⟩
instance : Inhabited Part := ⟨.plain []⟩

/-- A text on the lines after a command that reads it. -/
structure Document where
  body : Word

/-- Text of bytes in a diagnostic. -/
def shown (b : Bytes) : String := String.ofList b

end Provision.Shell
