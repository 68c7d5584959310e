/-!
# Cursors

A reader of a text holds the characters that are left and the number of bytes before them. Places in
a text are counts of bytes from its start.
-/

namespace Provision

/-- The bytes from `start` up to, not including, `stop`. -/
structure Span where
  start : Nat
  stop : Nat
  deriving DecidableEq, Repr

/-- The rest of a text and the number of bytes before it. -/
structure Cursor where
  rest : List Char
  pos : Nat

namespace Cursor

/-- The start of a text. -/
def ofString (s : String) : Cursor := ⟨s.toList, 0⟩

/-- Past the next character. -/
def next (c : Cursor) : Cursor :=
  match c.rest with
  | [] => c
  | x :: xs => ⟨xs, c.pos + x.utf8Size⟩

end Cursor

end Provision
