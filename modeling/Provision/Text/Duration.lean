/-!
# Durations in text

A span of time is shown in the largest unit of which it has at least one, with as many decimals as
it takes.
-/

namespace Provision.Text

/-- Three digits after a point, without zeros at the end; nothing if all are zero. -/
def thousandths (n : Nat) : List Char :=
  let digits := [n / 100 % 10, n / 10 % 10, n % 10].map Nat.digitChar
  match (digits.reverse.dropWhile (· = '0')).reverse with
  | [] => []
  | ds => '.' :: ds

/-- The text of a number of milliseconds. -/
def duration (milliseconds : Nat) : String :=
  if milliseconds = 0 then "0ns"
  else if milliseconds < 1000 then toString milliseconds ++ "ms"
  else
    toString (milliseconds / 1000) ++ String.ofList (thousandths (milliseconds % 1000)) ++ "s"

end Provision.Text
