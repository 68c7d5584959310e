import Provision.Url.Host
import Provision.Url.Segments

/-!
# Reading URLs

`Url.parse` reads an absolute URL: a scheme, an authority after two slashes, a path, a query and a
fragment. Controls and blanks around a text, and tabs and line breaks within it, do not count. A
special scheme takes a backslash for a slash and does not care how many slashes follow it.
-/

namespace Provision.Url

/-- The text without controls and blanks around it and without tabs and line breaks. -/
def trimmed (text : String) : List Char :=
  let outer (c : Char) : Bool := c.toNat ≤ 0x20
  let cs := text.toList.dropWhile outer
  ((cs.reverse.dropWhile outer).reverse).filter (!isIgnored ·)

/-- Whether a character may stand in a scheme after its first one. -/
def isSchemeChar (c : Char) : Bool := c.isAlphanum || c = '+' || c = '-' || c = '.'

/-- The scheme, in lower case, and what follows its colon. -/
def scheme? (cs : List Char) : Option (String × List Char) :=
  match cs with
  | c :: _ =>
    if c.isAlpha then
      match cs.dropWhile isSchemeChar with
      | ':' :: rest => some (String.ofList ((cs.takeWhile isSchemeChar).map Char.toLower), rest)
      | _ => none
    else none
  | [] => none

/-- Whether a character separates segments. -/
def isSlash (special : Bool) (c : Char) : Bool := c = '/' || (special && c = '\\')

/-- Whether a character ends an authority. -/
def endsAuthority (special : Bool) (c : Char) : Bool := isSlash special c || c = '?' || c = '#'

/-- What stands before the last at sign of a text, if there is one, and what follows it. -/
def splitUser (cs : List Char) : Option (List Char) × List Char :=
  if cs.contains '@' then
    let after := (cs.reverse.takeWhile (· ≠ '@')).reverse
    (some (cs.take (cs.length - after.length - 1)), after)
  else (none, cs)

/-- User name and password. -/
def readUser (cs : List Char) : String × Option String :=
  let encode (part : List Char) : String := String.ofList (percentEncode inUser part)
  match cs.dropWhile (· ≠ ':') with
  | ':' :: password =>
    (encode (cs.takeWhile (· ≠ ':')), if password.isEmpty then none else some (encode password))
  | _ => (encode cs, none)

/-- Whether user name and password are written at all. -/
def hasCredentials (user : String × Option String) : Bool := !(user.1.isEmpty && user.2.isNone)

/-- The host at the start of a text, and what follows it; a colon between brackets is part of it. -/
def splitHost (special : Bool) (cs : List Char) : List Char × List Char :=
  go false cs
where
  /-- `inside` tells whether a bracket is open. -/
  go : Bool → List Char → List Char × List Char
    | _, [] => ([], [])
    | inside, c :: rest =>
      if (c = ':' && !inside) || endsAuthority special c then ([], c :: rest)
      else
        let inside := if c = '[' then true else if c = ']' then false else inside
        let (host, rest) := go inside rest
        (c :: host, rest)

/-- A port of a scheme, which a delimiter ends, and what follows it; its default port counts as
none. -/
def readPort (scheme : String) (cs : List Char) : Except UrlFault (Option Nat × List Char) :=
  let digits := cs.takeWhile Char.isDigit
  let rest := cs.dropWhile Char.isDigit
  if rest.head?.any fun c => !endsAuthority true c then .error .invalidPort
  else if digits.isEmpty then .ok (none, rest)
  else
    let n := (digitsValue? 10 digits).getD 0
    if 65535 < n then .error .invalidPort
    else .ok (if defaultPort? scheme = some n then none else some n, rest)

/-- The segments of a path, from the character after its first slash. -/
def splitSegments (special : Bool) : List Char → List (List Char)
  | [] => [[]]
  | c :: rest =>
    if isSlash special c then [] :: splitSegments special rest
    else
      match splitSegments special rest with
      | [] => [[c]]
      | s :: ss => (c :: s) :: ss

/-- The segments of a path of a scheme, from the character after its first slash, encoded. -/
def encodedSegments (special : Bool) (cs : List Char) : List (List Char) :=
  (splitSegments special cs).map (percentEncode inPath)

/-- The path of a text without its first slash. -/
def readSegments (special : Bool) (cs : List Char) : List String :=
  addSegments [] (encodedSegments special cs)

/-- The drive that a segment names: a letter, and a colon or a bar in its place. -/
def drive? (segment : List Char) : Option String :=
  match segment with
  | [c, mark] =>
    if c.isAlpha && (mark = ':' || mark = '|') then some (String.ofList [c, ':']) else none
  | _ => none

/-- The path with the segments of a list, if there are any. -/
def addMore (path : List String) (segments : List (List Char)) : List String :=
  if segments.isEmpty then path else addSegments path segments

/-- The path of a file, which may start with a drive, and whether it does. What follows the colon of
a drive at once is a segment of its own, whatever it is. -/
def readDrivePath (cs : List Char) : List String × Bool :=
  match encodedSegments true cs with
  | [] => ([], false)
  | first :: rest =>
    match drive? first, drive? (first.take 2) with
    | some drive, _ => (addMore [drive] rest, true)
    | none, some drive =>
      if (first.drop 1).head? = some ':' then
        (addMore [drive, String.ofList (first.drop 2)] rest, false)
      else (addSegments [] (first :: rest), false)
    | none, none => (addSegments [] (first :: rest), false)

/-- A text before its first character with a property, and from there on. -/
def splitWhere (p : Char → Bool) (cs : List Char) : List Char × List Char :=
  (cs.takeWhile (!p ·), cs.dropWhile (!p ·))

/-- Query and fragment, from the question mark or number sign on. -/
def readQueryFragment (scheme : String) (cs : List Char) : Option String × Option String :=
  let set := if isSpecialScheme scheme then inSpecialQuery else inQuery
  let (query, rest) := splitWhere (· = '#') cs
  let query :=
    match query with
    | '?' :: q => some (String.ofList (percentEncode set q))
    | _ => none
  let fragment :=
    match rest with
    | _ :: f => some (String.ofList (percentEncode inFragment f))
    | [] => none
  (query, fragment)

/-- The URL of a scheme, an authority, a path and what follows it. -/
def assemble (scheme : String) (user : String × Option String) (host : Option String)
    (port : Option Nat) (path : Path) (rest : List Char) : Url :=
  let (query, fragment) := readQueryFragment scheme rest
  let guarded := host.isNone && path.text.startsWith "//"
  ⟨scheme, user.1, user.2, host, port, guarded, path, query, fragment⟩

/-- Whether a character ends a path. -/
def endsPath (c : Char) : Bool := c = '?' || c = '#'

/-- The text without a slash at its start. -/
def dropSlash (special : Bool) (cs : List Char) : List Char :=
  match cs with
  | c :: rest => if isSlash special c then rest else cs
  | [] => []

/-- User name and password before the last at sign of an authority, if there are any, and what
follows them. Nothing but a host may follow an at sign that stands alone. -/
def readCredentials (special : Bool) (cs : List Char) :
    Except UrlFault ((String × Option String) × List Char) :=
  let (authority, rest) := splitWhere (endsAuthority special) cs
  match splitUser authority with
  | (none, _) => .ok (("", none), cs)
  | (some [], place) =>
    if place.isEmpty && !rest.isEmpty then .error .emptyHost else .ok (("", none), place ++ rest)
  | (some user, place) => .ok (readUser user, place ++ rest)

/-- The URL of a scheme from its authority on. -/
def readAuthority (scheme : String) (cs : List Char) : Except UrlFault Url := do
  let special := isSpecialScheme scheme
  let (user, cs) ← readCredentials special cs
  let (hostText, cs) := splitHost special cs
  if special && hostText.isEmpty then throw .emptyHost
  let host ← if special then specialHost hostText else otherHost hostText
  let (port, cs) ←
    match cs with
    | ':' :: rest => if host.isEmpty then throw .emptyHost else readPort scheme rest
    | _ => pure (none, cs)
  if host.isEmpty && hasCredentials user then throw .emptyHost
  let (path, rest) := splitWhere endsPath cs
  let segments :=
    if path.isEmpty && !special then [] else readSegments special (dropSlash special path)
  .ok (assemble scheme user (some host) port (.segments segments) rest)

/-- The URL of a file on a host, or on none, with the path that a text starts with. -/
def fileUrl (host : String) (path : List String) (rest : List Char) : Url :=
  assemble "file" ("", none) (some host) none (.segments (trimLeading path)) rest

/-- The URL of a file, from what follows the scheme. A path that starts with a drive has no host. -/
def readFile (cs : List Char) : Except UrlFault Url := do
  match cs with
  | a :: b :: after =>
    if isSlash true a && isSlash true b then
      let (hostText, place) := splitWhere (endsAuthority true) after
      let isDrive := (drive? hostText).isSome
      let (path, rest) := splitWhere endsPath (if isDrive then after else place)
      if isDrive then return fileUrl "" (readDrivePath path).1 rest
      let host ← if hostText.isEmpty then pure "" else specialHost hostText
      if host.isEmpty || host = "localhost" then
        return fileUrl "" (readSegments true path) rest
      let (segments, found) := readDrivePath (dropSlash true path)
      return fileUrl (if found then "" else host) segments rest
  | _ => pure ()
  let (path, rest) := splitWhere endsPath cs
  return fileUrl "" (readDrivePath (dropSlash true path)).1 rest

/-- The URL of a scheme that is not special, from what follows the scheme. -/
def readOther (scheme : String) (cs : List Char) : Except UrlFault Url :=
  match cs with
  | '/' :: '/' :: rest => readAuthority scheme rest
  | '/' :: rest =>
    let (path, rest) := splitWhere endsPath rest
    .ok (assemble scheme ("", none) none none (.segments (readSegments false path)) rest)
  | _ =>
    let (path, rest) := splitWhere endsPath cs
    let text := String.ofList (percentEncode isControl path)
    .ok (assemble scheme ("", none) none none (.whole text) rest)

/-- The URL of a text. -/
def parse (text : String) : Except UrlFault Url :=
  match scheme? (trimmed text) with
  | none => .error .relativeWithoutBase
  | some (scheme, rest) =>
    if scheme = "file" then readFile rest
    else if isSpecialScheme scheme then readAuthority scheme (rest.dropWhile (isSlash true))
    else readOther scheme rest

end Provision.Url
