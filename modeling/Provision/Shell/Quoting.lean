import Provision.Shell.Syntax

/-!
# Quoting

How a text is written so that a shell reads it back: behind backslashes, between single or double
quotes, or between dollar quotes if it holds bytes that cannot be printed.
-/

namespace Provision.Shell.Quoting

/-- Whether a byte can be printed. -/
def isPrintable (c : Char) : Bool := ' ' ≤ c && c ≤ '~'

/-- Whether a text can only be written between dollar quotes. -/
def needsDollar (bytes : Bytes) : Bool := bytes.any (!isPrintable ·)

/-- The digits of a number of base eight, three at least. -/
def octal (n : Nat) : Bytes :=
  let ds := Nat.toDigits 8 n
  List.replicate (3 - ds.length) '0' ++ ds

/-- A byte between dollar quotes. -/
def dollarByte (c : Char) : Bytes :=
  match c with
  | '\x1b' => ['\\', 'E']
  | '\x07' => ['\\', 'a']
  | '\x08' => ['\\', 'b']
  | '\x0b' => ['\\', 'v']
  | '\x0c' => ['\\', 'f']
  | '\n' => ['\\', 'n']
  | '\r' => ['\\', 'r']
  | '\t' => ['\\', 't']
  | '\\' => ['\\', '\\']
  | '\'' => ['\\', '\'']
  | c => if isPrintable c then [c] else '\\' :: octal c.toNat

/-- A text between dollar quotes. -/
def dollar (bytes : Bytes) : Bytes := "$'".toList ++ bytes.flatMap dollarByte ++ ['\'']

/-- A text between single quotes. -/
def single (bytes : Bytes) : Bytes :=
  if bytes = ['\''] then ['\\', '\'']
  else '\'' :: bytes.flatMap (fun c => if c = '\'' then "'\\''".toList else [c]) ++ ['\'']

/-- A text between double quotes. -/
def double (bytes : Bytes) : Bytes :=
  let isSpecial (c : Char) : Bool := c = '"' || c = '$' || c = '\\' || c.toNat = 0x60
  '"' :: bytes.flatMap (fun c => if isSpecial c then ['\\', c] else [c]) ++ ['"']

/-- Whether a byte means something to a shell wherever it stands. -/
def isMeta (c : Char) : Bool :=
  [' ', '\t', '\n', '\'', '"', '\\', '|', '&', ';', '(', ')', '<', '>', '!', '{', '}', '*', '[',
    '?', ']', '^', '$'].contains c || c.toNat = 0x60

/-- Whether a text means something else to a shell than itself, after a byte. -/
def hasMetaAfter : Char → Bytes → Bool
  | _, [] => false
  | before, c :: rest =>
    isMeta c || (c = '~' && (before = '\x00' || before = '=' || before = ':')) ||
      (c = '#' && before = '\x00') || hasMetaAfter c rest

/-- Whether a text means something else to a shell than itself. -/
def hasMeta (bytes : Bytes) : Bool := hasMetaAfter '\x00' bytes

/-- A text after a byte, with a backslash before each byte that means something. -/
def backslashedAfter : Char → Bytes → Bytes
  | _, [] => []
  | before, c :: rest =>
    let special :=
      isMeta c || c = ',' || (c = '~' && (before = '\x00' || before = '=' || before = ':')) ||
        (c = '#' && before = '\x00')
    (if special then ['\\', c] else [c]) ++ backslashedAfter c rest

/-- A text as a word of a script. -/
def word (bytes : Bytes) : Bytes :=
  if bytes.isEmpty then ['\'', '\'']
  else if needsDollar bytes then dollar bytes
  else backslashedAfter '\x00' bytes

/-- A word in the trace of a script. -/
def traced (bytes : Bytes) : Bytes :=
  if bytes.isEmpty then ['\'', '\'']
  else if hasMeta bytes then single bytes
  else if needsDollar bytes then dollar bytes
  else bytes

/-- A value in a list of variables. -/
def listed (bytes : Bytes) : Bytes :=
  if needsDollar bytes then dollar bytes else if hasMeta bytes then single bytes else bytes

/-- A value in a declaration. -/
def declared (bytes : Bytes) : Bytes := if needsDollar bytes then dollar bytes else double bytes

/-- A value that is always between quotes. -/
def always (bytes : Bytes) : Bytes := if needsDollar bytes then dollar bytes else single bytes

/-- A text between single quotes as the plain shell writes it, with double quotes around single
ones. -/
def plainSingle (bytes : Bytes) : Bytes :=
  '\'' :: go bytes ++ ['\'']
where
  /-- The text with what quotes need. -/
  go : Bytes → Bytes
    | [] => []
    | c :: rest => if c = '\'' then "'\"'\"'".toList ++ go rest else c :: go rest

end Provision.Shell.Quoting
