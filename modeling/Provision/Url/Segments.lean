import Provision.Url.Basic
import Provision.Url.Percent

/-!
# Path segments

Segments are added to a path one by one. A dot segment is not kept: a single dot changes nothing and
a double dot takes the last segment away; at the end of a path both leave an empty segment behind.
`push` adds one segment to a path that is complete: it takes the place of an empty last segment that
stands alone.
-/

namespace Provision.Url

/-- Whether a segment stands for the path it is in, possibly with its dot encoded. -/
def isSingleDot (segment : List Char) : Bool :=
  match segment with
  | ['.'] => true
  | ['%', '2', e] => e = 'e' || e = 'E'
  | _ => false

/-- Whether a segment stands for the path before, possibly with its dots encoded. -/
def isDoubleDot (segment : List Char) : Bool :=
  match segment with
  | '.' :: rest => isSingleDot rest
  | '%' :: '2' :: e :: rest => (e = 'e' || e = 'E') && isSingleDot rest
  | _ => false

/-- Whether a segment starts like a drive, as a letter and a colon or bar that nothing but a
delimiter follows. -/
def startsLikeDrive (segment : String) : Bool :=
  match segment.toList with
  | [c, mark] => c.isAlpha && (mark = ':' || mark = '|')
  | c :: mark :: '\\' :: _ => c.isAlpha && (mark = ':' || mark = '|')
  | _ => false

/-- The path without its last segment; one that starts like a drive stays. -/
def shorten (path : List String) : List String :=
  match path.getLast? with
  | some last => if startsLikeDrive last then path else path.dropLast
  | none => path

/-- The path with one segment more, which is the last one or not. -/
def addSegment (last : Bool) (path : List String) (segment : List Char) : List String :=
  if isDoubleDot segment then
    if last then shorten path ++ [""] else shorten path
  else if isSingleDot segment then
    if last then path ++ [""] else path
  else path ++ [String.ofList segment]

/-- The path with the segments of a list, the last of which is the last of the path. -/
def addSegments : List String → List (List Char) → List String
  | path, [] => path
  | path, [s] => addSegment true path s
  | path, s :: rest => addSegments (addSegment false path s) rest

/-- The path without empty segments before the first other one. -/
def trimLeading (path : List String) : List String :=
  match path with
  | "" :: s :: rest => trimLeading (s :: rest)
  | path => path

/-- Whether a character is passed over wherever it stands in a URL. -/
def isIgnored (c : Char) : Bool := c = '\t' || c = '\n' || c = '\r'

/-- The characters of a segment as they stand in the path of a scheme. -/
def encodeSegment (special : Bool) (segment : String) : List Char :=
  percentEncode (if special then inSpecialSegment else inSegment)
    (segment.toList.filter (!isIgnored ·))

/-- The path with one segment added at its end. A segment that is literally a dot segment is passed
over. -/
def push (special file : Bool) (path : List String) (segment : String) : List String :=
  if segment = "." || segment = ".." then path
  else
    let path := if path = [""] then [] else path
    let path := addSegment true path (encodeSegment special segment)
    if file then trimLeading path else path

/-- The path without an empty last segment, unless that is its only one. -/
def dropTrailingEmpty (path : List String) : List String :=
  match path with
  | _ :: _ :: _ => if path.getLast? = some "" then path.dropLast else path
  | path => path

/-- The URL with some segments added to its path, in place of an empty last segment; none if the
path is one text. -/
def extend? (u : Url) (segments : List String) : Option Url :=
  match u.path with
  | .whole _ => none
  | .segments path =>
    let add := push (isSpecialScheme u.scheme) (u.scheme = "file")
    some { u with path := .segments (segments.foldl add (dropTrailingEmpty path)) }

end Provision.Url
