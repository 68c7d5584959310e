/-!
# Runs of characters

What is said of characters is said of runs: neighbours of which the same holds. A table of runs is
written as lines of words, one word a run: the first code point in base sixteen, the last one after
a point if it is another, and then what is said. The runs of a table ascend and do not overlap, so
a code point is found by halving.
-/

namespace Provision.Text

/-- Neighbouring code points of which the same holds. -/
structure Run (α : Type) where
  first : Nat
  last : Nat
  value : α

/-- A table of runs. -/
abbrev Runs (α : Type) := Array (Run α)

/-- The value of a digit in base sixteen, upper case. -/
def hexValue? (c : Char) : Option Nat :=
  if c.isDigit then some (c.toNat - 48)
  else if 'A' ≤ c && c ≤ 'F' then some (c.toNat - 55)
  else none

/-- The number at the start of a text, and what follows it. -/
def leadingHex (n : Nat) : List Char → Nat × List Char
  | [] => (n, [])
  | c :: rest =>
    match hexValue? c with
    | some d => leadingHex (n * 16 + d) rest
    | none => (n, c :: rest)

/-- The run of a word, when `value` reads what is said. -/
def readRun (value : List Char → α) (word : String) : Run α :=
  let (first, rest) := leadingHex 0 word.toList
  match rest with
  | '.' :: rest =>
    let (last, rest) := leadingHex 0 rest
    ⟨first, last, value rest⟩
  | rest => ⟨first, first, value rest⟩

namespace Runs

/-- The table of some lines, when `value` reads what is said of a run. -/
def read (value : List Char → α) (lines : List String) : Runs α :=
  (lines.flatMap fun line => (line.splitOn " ").map (readRun value)).toArray

/-- The run of a code point among those from `low` up to `high`. -/
def search (runs : Runs α) (n low high : Nat) : Option (Run α) :=
  if h : low < high ∧ high ≤ runs.size then
    let middle := low + (high - low) / 2
    let r := runs[middle]
    if n < r.first then search runs n low middle
    else if n ≤ r.last then some r
    else search runs n (middle + 1) high
  else none
termination_by high - low
decreasing_by all_goals omega

/-- The run of a code point, if it is in one. -/
def find? (runs : Runs α) (n : Nat) : Option (Run α) := search runs n 0 runs.size

/-- What is said of a code point. -/
def value? (runs : Runs α) (n : Nat) : Option α := (runs.find? n).map (·.value)

end Runs

end Provision.Text
