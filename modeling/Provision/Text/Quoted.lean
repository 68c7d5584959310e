import Provision.Text.Visible

/-!
# Quoted text

The form in which diagnostics show a text: between double quotes, with a backslash before a quote
or a backslash, short names for the common controls, and the number of every other character that
has no shape of its own. A single quote stands for itself.
-/

namespace Provision.Text

/-- The digits of `n` in base sixteen, lower case, without leading zeros. -/
def hex (n : Nat) : List Char := Nat.toDigits 16 n

/-- One character as it stands between double quotes. -/
def quoteChar (c : Char) : List Char :=
  if c = '\x00' then ['\\', '0']
  else if c = '\t' then ['\\', 't']
  else if c = '\n' then ['\\', 'n']
  else if c = '\r' then ['\\', 'r']
  else if c = '"' then ['\\', '"']
  else if c = '\\' then ['\\', '\\']
  else if isVisible c then [c]
  else '\\' :: 'u' :: '{' :: (hex c.toNat ++ ['}'])

/-- A text between double quotes. -/
def quoted (s : String) : String :=
  String.ofList ('"' :: (s.toList.flatMap quoteChar ++ ['"']))

end Provision.Text
