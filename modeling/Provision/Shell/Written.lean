import Provision.Shell.Quoting
import Provision.Shell.Syntax

/-!
# Words as they are written

A form in which a word may be written, for traces and diagnostics that show what was not expanded.
-/

namespace Provision.Shell

mutual

/-- A form of some parts. -/
def writtenParts : Nat → Bool → List Part → Bytes
  | 0, _, _ => []
  | _ + 1, _, [] => []
  | fuel + 1, quoted, p :: rest => writtenPart fuel quoted p ++ writtenParts fuel quoted rest

/-- A form of a part. -/
def writtenPart : Nat → Bool → Part → Bytes
  | 0, _, _ => []
  | fuel + 1, quoted, p =>
    match p with
    | .plain t => t
    | .literal t =>
      if quoted then t
      else if t.length = 1 && t ≠ ['\n'] && t ≠ ['\''] then '\\' :: t
      else Quoting.single t
    | .quoted parts => '"' :: writtenParts fuel true parts ++ ['"']
    | .parameter (.mk name .none false) .value =>
      if name.length ≤ 1 || name.all fun c => c.isAlphanum || c = '_' then '$' :: name
      else "$\x7b".toList ++ name ++ ['}']
    | .parameter (.mk name index indirect) use =>
      "$\x7b".toList ++ (if indirect then ['!'] else []) ++
        (match use with
          | .length => ['#']
          | .indices | .names _ => ['!']
          | _ => []) ++ name ++ writtenIndex fuel index ++ writtenUse fuel use ++ ['}']
    | .bad text => text
    | .output _ _ => "$(...)".toList
    | .outputOf text =>
      let mark := Char.ofNat 0x60
      mark :: text ++ [mark]
    | .arithmetic parts => "$((".toList ++ writtenParts fuel true parts ++ "))".toList
    | .process writes _ => (if writes then ">(...)" else "<(...)").toList

/-- A form of an index. -/
def writtenIndex : Nat → Index → Bytes
  | 0, _ => []
  | fuel + 1, index =>
    match index with
    | .none => []
    | .each => "[@]".toList
    | .joined => "[*]".toList
    | .element word => '[' :: writtenParts fuel false word ++ [']']

/-- A form of what is made of a parameter. -/
def writtenUse : Nat → Use → Bytes
  | 0, _ => []
  | fuel + 1, use =>
    let colon (c : Bool) (op : Char) (word : List Part) : Bytes :=
      (if c then [':'] else []) ++ op :: writtenParts fuel false word
    match use with
    | .value | .length | .indices => []
    | .names joined => if joined then ['*'] else ['@']
    | .default c word => colon c '-' word
    | .assign c word => colon c '=' word
    | .insist c word => colon c '?' word
    | .alternative c word => colon c '+' word
    | .drop fromEnd longest pattern =>
      let op := if fromEnd then '%' else '#'
      op :: (if longest then [op] else []) ++ writtenParts fuel false pattern
    | .replace extent pattern replacement =>
      '/' ::
        (match extent with
          | .first => []
          | .all => ['/']
          | .atStart => ['#']
          | .atEnd => ['%']) ++ writtenParts fuel false pattern ++
        '/' :: writtenParts fuel false replacement
    | .change change all pattern =>
      let op :=
        match change with
        | .upper => '^'
        | .lower => ','
        | .toggle => '~'
      op :: (if all then [op] else []) ++ writtenParts fuel false pattern
    | .slice offset length =>
      ':' :: writtenParts fuel false offset ++
        (match length with
          | some word => ':' :: writtenParts fuel false word
          | none => [])
    | .transform op => ['@', op]

end

/-- A form of a word. -/
def written (w : Word) : Bytes := writtenParts 1000 false w

end Provision.Shell
