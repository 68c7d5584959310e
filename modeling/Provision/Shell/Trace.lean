import Provision.Shell.Expansion
import Provision.Shell.Grammar
import Provision.Shell.Listing

/-!
# Traces

A shell may tell each command before it runs it. What it tells starts with a mark, once for every
shell or text that the command is inside of.
-/

namespace Provision.Shell

/-- What a trace starts with. -/
def traceMark (sub : Substitution) : Act Bytes := do
  let s ← get
  let mark := (s.parameter? "PS4".toList).getD ['+', ' ']
  let mark ←
    if mark.contains '$' || mark.contains (Char.ofNat 0x60) then
      documentOf sub (wordOfText s.dialect mark)
    else pure mark
  match s.dialect, mark with
  | .bash, c :: rest => return List.replicate (s.traceDepth + 1) c ++ rest
  | _, mark => return mark

/-- Tells a command if commands are told. -/
def trace (sub : Substitution) (text : Bytes) : Act Unit := do
  let s ← get
  if s.has "xtrace" then
    set { s with options := s.options.filter (· ≠ "xtrace") }
    let mark ← traceMark sub
    modify fun t => { t with options := s.options }
    say (mark ++ text ++ ['\n'])

/-- Words as they are told. -/
def tracedWords (d : Dialect) (words : List Bytes) : Bytes :=
  match d with
  | .bash => Listing.spaced (words.map Quoting.traced)
  | .plain => Listing.spaced words

/-- A value as it is told when a variable takes it on. -/
def tracedValue (d : Dialect) (t : Bytes) : Bytes :=
  match d with
  | .bash => if t.isEmpty then [] else Quoting.traced t
  | .plain => t

end Provision.Shell
