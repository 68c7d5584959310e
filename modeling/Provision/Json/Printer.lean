import Provision.Json.Value

/-!
# Json text

`compact` writes a value without blanks, `pretty` with one item or member to a line. Both keep the
order of the members. A string is written with the two character escapes where there are any, other
controls by number, and everything else as itself, so compact text never holds a line break.
-/

namespace Provision.Json

/-- The integer value of a number that is not a double. -/
def Number.toInt? : Number → Option Int
  | .natural n => some n.toNat
  | .negative n => some (Int.negSucc n.val)
  | .double _ => none

/-- The text of a number. -/
def Number.chars : Number → List Char
  | .natural n => Nat.toDigits 10 n.toNat
  | .negative n => '-' :: Nat.toDigits 10 (n.val + 1)
  | .double x => x.chars

/-- A digit in base sixteen, lower case. -/
def hexDigit (n : Nat) : Char := Nat.digitChar (n % 16)

/-- One character of a string. -/
def escape (c : Char) : List Char :=
  if c = '"' then ['\\', '"']
  else if c = '\\' then ['\\', '\\']
  else if c = '\x08' then ['\\', 'b']
  else if c = '\x0c' then ['\\', 'f']
  else if c = '\n' then ['\\', 'n']
  else if c = '\r' then ['\\', 'r']
  else if c = '\t' then ['\\', 't']
  else if c.toNat < 0x20 then ['\\', 'u', '0', '0', hexDigit (c.toNat / 16), hexDigit c.toNat]
  else [c]

/-- The text of a string, with its quotes. -/
def stringChars (s : String) : List Char := '"' :: (s.toList.flatMap escape ++ ['"'])

mutual

/-- The compact text of a value. -/
def chars : Json → List Char
  | .null => ['n', 'u', 'l', 'l']
  | .bool true => ['t', 'r', 'u', 'e']
  | .bool false => ['f', 'a', 'l', 's', 'e']
  | .number n => n.chars
  | .string s => stringChars s
  | .array [] => ['[', ']']
  | .array (j :: js) => '[' :: (chars j ++ itemsChars js)
  | .object [] => ['{', '}']
  | .object ((k, j) :: rest) => '{' :: (stringChars k ++ ':' :: (chars j ++ membersChars rest))

/-- The items after the first, and the closing bracket. -/
def itemsChars : List Json → List Char
  | [] => [']']
  | j :: js => ',' :: (chars j ++ itemsChars js)

/-- The members after the first, and the closing brace. -/
def membersChars : List (String × Json) → List Char
  | [] => ['}']
  | (k, j) :: rest => ',' :: (stringChars k ++ ':' :: (chars j ++ membersChars rest))

end

/-- The compact text of a value. -/
def compact (j : Json) : String := String.ofList j.chars

/-- A line break and two blanks for every level. -/
def newline (level : Nat) : List Char := '\n' :: List.replicate (2 * level) ' '

mutual

/-- The indented text of a value at a level. -/
def prettyChars (level : Nat) : Json → List Char
  | .array (j :: js) =>
    '[' :: (newline (level + 1) ++ prettyChars (level + 1) j ++ prettyItems level js)
  | .object ((k, j) :: rest) =>
    '{' :: (newline (level + 1) ++ stringChars k ++ ':' :: ' ' :: prettyChars (level + 1) j ++
      prettyMembers level rest)
  | .array [] => ['[', ']']
  | .object [] => ['{', '}']
  | .null => ['n', 'u', 'l', 'l']
  | .bool true => ['t', 'r', 'u', 'e']
  | .bool false => ['f', 'a', 'l', 's', 'e']
  | .number n => n.chars
  | .string s => stringChars s

/-- The indented items after the first, and the closing bracket. -/
def prettyItems (level : Nat) : List Json → List Char
  | [] => newline level ++ [']']
  | j :: js => ',' :: (newline (level + 1) ++ prettyChars (level + 1) j ++ prettyItems level js)

/-- The indented members after the first, and the closing brace. -/
def prettyMembers (level : Nat) : List (String × Json) → List Char
  | [] => newline level ++ ['}']
  | (k, j) :: rest =>
    ',' :: (newline (level + 1) ++ stringChars k ++ ':' :: ' ' :: prettyChars (level + 1) j ++
      prettyMembers level rest)

end

/-- The text of a value with every item and member on a line of its own. -/
def pretty (j : Json) : String := String.ofList (j.prettyChars 0)

end Provision.Json
