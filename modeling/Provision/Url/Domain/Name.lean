import Provision.Text.Composition
import Provision.Url.Domain.Direction
import Provision.Url.Domain.Joiner
import Provision.Url.Domain.Mapping
import Provision.Url.Punycode

/-!
# Domain names

`ascii?` gives a domain name as it stands in a URL: its characters are mapped and put together, and
its labels, the parts between the dots, are checked and written in ASCII, those beyond it in
Punycode. A label that claims to be in Punycode must be.
-/

namespace Provision.Url.Domain

/-- The parts between dots. -/
def labels : List Char → List (List Char)
  | [] => [[]]
  | '.' :: rest => [] :: labels rest
  | c :: rest =>
    match labels rest with
    | [] => [[c]]
    | l :: ls => (c :: l) :: ls

/-- The name with its characters mapped and put together; none if one may not stand in a name. -/
def mapped? (name : List Char) : Option (List Char) :=
  if name.any isRefused then none
  else some (Text.compose (name.flatMap fun c => (mapping? c).getD [c]))

/-- Whether a character of ASCII may not stand in the name of a host. -/
def isDenied (c : Char) : Bool :=
  c.toNat ≤ 0x20 || c.toNat = 0x7F ||
    ['%', '#', '/', ':', '<', '>', '?', '@', '[', '\\', ']', '^', '|'].contains c

/-- Whether a character is in ASCII. -/
def isAscii (c : Char) : Bool := c.toNat < 0x80

/-- What a label in Punycode starts with. -/
def punycodeMark : List Char := ['x', 'n', '-', '-']

/-- The longest form of a label that is read. -/
def longestForm : Nat := 2000

/-- The longest label that is written in Punycode. -/
def longestLabel : Nat := 1000

/-- A label: what it says, and how it is written. -/
structure Label where
  said : List Char
  written : List Char

/-- Whether what a label says is in order: it starts with no mark, and its joiners are where they
may be. -/
def isWellFormed (said : List Char) : Bool :=
  !(said.head?.any Text.isMark) && joinersFit [] said

/-- The label that a written form stands for. -/
def ofPunycode? (form : List Char) : Option Label :=
  match Punycode.decode? form with
  | none => none
  | some said =>
    if form.length ≤ longestForm && !said.all isAscii && said.all isValid &&
        Text.compose said = said && isWellFormed said then
      some ⟨said, punycodeMark ++ form⟩
    else none

/-- The label of a mapped text. -/
def label? (text : List Char) : Option Label :=
  if text.take 4 = punycodeMark then
    if text.all isAscii then ofPunycode? (text.drop 4) else none
  else if text.all isAscii then some ⟨text, text⟩
  else if text.length ≤ longestLabel && isWellFormed text then
    some ⟨text, punycodeMark ++ Punycode.encode text⟩
  else none

/-- Whether the directions of a name are in order. -/
def directionsFit (ls : List Label) : Bool :=
  if ls.any fun l => l.said.any fun c => (direction c).isRightward then
    ls.all fun l => keepsDirection l.said
  else true

/-- The name in ASCII. -/
def ascii? (name : List Char) : Option (List Char) := do
  let cs ← mapped? name
  let ls ← (labels cs).mapM label?
  if cs.any isDenied || !directionsFit ls then none
  some (['.'].intercalate (ls.map (·.written)))

end Provision.Url.Domain
