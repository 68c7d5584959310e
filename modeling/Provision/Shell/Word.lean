import Provision.Shell.Source

/-!
# Reading words

A word is read part by part. What ends it, and what its quotes and backslashes do, depends on where
it stands: a `Manner` tells. Commands stand inside words as words stand inside commands, so all
readers here are given the reader of a list of commands.
-/

namespace Provision.Shell

/-- How a text is read. -/
structure Manner where
  /-- What ends the text, outside all brackets of its own. -/
  stops : Char → Bool
  opens : Char → Bool
  closes : Char → Bool
  /-- What a backslash takes its meaning from; it stands for itself before anything else. -/
  escapable : Char → Bool
  /-- Whether the text stands between double quotes already. -/
  inQuotes : Bool
  doubleQuotes : Bool
  singleQuotes : Bool
  /-- Whether double quotes are passed over. -/
  dropsQuotes : Bool

namespace Manner

/-- Nothing. -/
def never (_ : Char) : Bool := false

/-- What a backslash takes its meaning from between double quotes. -/
def escapableInQuotes (c : Char) : Bool := c = '$' || c.toNat = 0x60 || c = '"' || c = '\\'

/-- A word of a command. -/
def word : Manner :=
  ⟨isMeta, never, never, fun _ => true, false, true, true, false⟩

/-- A text between double quotes. -/
def quotes : Manner :=
  ⟨(· = '"'), never, never, escapableInQuotes, true, false, false, false⟩

/-- A document. -/
def document : Manner :=
  ⟨never, never, never, fun c => escapableInQuotes c && c ≠ '"', true, false, false, false⟩

/-- A word behind an operator between braces. -/
def braces (inQuotes : Bool) : Manner :=
  if inQuotes then
    ⟨(· = '}'), never, never, fun c => escapableInQuotes c || c = '}', true, true, false, false⟩
  else ⟨(· = '}'), never, never, fun _ => true, false, true, true, false⟩

/-- A pattern between braces, up to a slash too if something follows the pattern. -/
def bracedPattern (replaced : Bool) : Manner :=
  ⟨fun c => c = '}' || (replaced && c = '/'), never, never, fun _ => true, false, true, true, false⟩

/-- An expression between braces, up to a colon. -/
def slice : Manner :=
  ⟨fun c => c = '}' || c = ':', (· = '('), (· = ')'), escapableInQuotes, true, false, false, true⟩

/-- An index between brackets. -/
def index : Manner :=
  ⟨(· = ']'), (· = '['), (· = ']'), fun _ => true, false, true, true, false⟩

/-- An expression between brackets or parentheses. -/
def expression (opening closing : Char) : Manner :=
  ⟨(· = closing), (· = opening), (· = closing), escapableInQuotes, true, false, false, true⟩

/-- A part of an expression with semicolons between its parts. -/
def countPart : Manner :=
  ⟨fun c => c = ')' || c = ';', (· = '('), (· = ')'), escapableInQuotes, true, false, false, true⟩

/-- The alternatives of a pattern. -/
def group : Manner :=
  ⟨(· = ')'), (· = '('), (· = ')'), fun _ => true, false, true, true, false⟩

/-- A regular expression. -/
def regex : Manner :=
  ⟨fun c => c = ' ' || c = '\t' || c = '\n' || c = ';' || c = '&' || c = '|' || c = ')', (· = '('),
    (· = ')'), fun _ => true, false, true, true, false⟩

end Manner

/-- The parts of a word with a text before it that is open to patterns unless it is quoted. -/
def addText (inQuotes : Bool) (s : Bytes) (parts : List Part) : List Part :=
  if inQuotes then
    match parts with
    | .literal t :: rest => .literal (s ++ t) :: rest
    | parts => .literal s :: parts
  else
    match parts with
    | .plain t :: rest => .plain (s ++ t) :: rest
    | parts => .plain s :: parts

/-- The first bytes that mean nothing but themselves in a text. -/
def ordinary (m : Manner) (extended : Bool) : Bytes → Bytes
  | [] => []
  | c :: rest =>
    let special :=
      m.stops c || m.opens c || m.closes c || c = '\\' || c = '$' || c.toNat = 0x60 || c = '\'' ||
        c = '"' || ((c = '<' || c = '>') && rest.head? = some '(') ||
        (extended && ['?', '*', '+', '@', '!'].contains c && rest.head? = some '(')
    if special then [] else c :: ordinary m extended rest

/-- The value of a digit in a base, if it is one. -/
def digitIn (base : Nat) (c : Char) : Option Nat :=
  let n :=
    if c.isDigit then c.toNat - 48
    else if 'a' ≤ c && c ≤ 'f' then c.toNat - 87
    else if 'A' ≤ c && c ≤ 'F' then c.toNat - 55
    else 99
  if n < base then some n else none

/-- A number of a few digits at the start of a text, and what follows it; nothing without digits. -/
def digitsAhead (base : Nat) : Nat → Bytes → Option (Nat × Bytes)
  | 0, _ => none
  | most + 1, cs =>
    let digits := (cs.take (most + 1)).takeWhile fun c => (digitIn base c).isSome
    if digits.isEmpty then none
    else
      some (digits.foldl (fun n c => n * base + (digitIn base c).getD 0) 0, cs.drop digits.length)

/-- The digits of a number of base sixteen, of a width at least. -/
def hexDigits (width n : Nat) : Bytes :=
  let ds := (Nat.toDigits 16 n).map Char.toUpper
  List.replicate (width - ds.length) '0' ++ ds

/-- A code point for those who know no characters but ASCII. -/
def pointBytes (n : Nat) : Bytes :=
  if n < 0x80 then [Char.ofNat n]
  else if n ≤ 0xFFFF then '\\' :: 'u' :: hexDigits 4 n
  else '\\' :: 'U' :: hexDigits 8 n

/-- The bytes that an escape between dollar quotes stands for, from what follows the backslash. -/
def dollarEscape (cs : Bytes) : Bytes × Bytes :=
  match cs with
  | [] => (['\\'], [])
  | c :: rest =>
    match c with
    | 'a' => (['\x07'], rest)
    | 'b' => (['\x08'], rest)
    | 'e' | 'E' => (['\x1b'], rest)
    | 'f' => (['\x0c'], rest)
    | 'n' => (['\n'], rest)
    | 'r' => (['\r'], rest)
    | 't' => (['\t'], rest)
    | 'v' => (['\x0b'], rest)
    | '\\' | '\'' | '"' | '?' => ([c], rest)
    | 'x' =>
      match digitsAhead 16 2 rest with
      | some (n, rest) => ([Char.ofNat n], rest)
      | none => (['\\', 'x'], rest)
    | 'u' | 'U' =>
      match digitsAhead 16 (if c = 'u' then 4 else 8) rest with
      | some (n, rest) => (pointBytes n, rest)
      | none => (['\\', c], rest)
    | 'c' =>
      match rest with
      | d :: rest => ([Char.ofNat (d.toNat % 32)], rest)
      | [] => (['\\', 'c'], [])
    | _ =>
      match digitsAhead 8 3 cs with
      | some (n, rest) => ([Char.ofNat (n % 256)], rest)
      | none => (['\\', c], rest)

/-- The text between dollar quotes without its escapes; it ends at a zero byte. -/
def decodeDollar : Nat → Bytes → Bytes
  | 0, _ => []
  | _ + 1, [] => []
  | fuel + 1, '\\' :: rest =>
    let (bytes, rest) := dollarEscape rest
    if bytes = ['\x00'] then [] else bytes ++ decodeDollar fuel rest
  | fuel + 1, c :: rest => c :: decodeDollar fuel rest

/-- The text up to a closing mark that no backslash precedes, as it is written. -/
def rawUntil (mark : Char) : Nat → Reader (Option Bytes)
  | 0 => pure none
  | fuel + 1 => do
    match ← look with
    | [] => pure none
    | '\\' :: d :: _ =>
      skipMany 2
      return (← rawUntil mark fuel).map fun rest => '\\' :: d :: rest
    | c :: _ =>
      if c = mark then pure (some [])
      else
        let run := (← look).takeWhile fun d => d ≠ mark && d ≠ '\\'
        if run.isEmpty then
          skip
          return (← rawUntil mark fuel).map (c :: ·)
        else
          skipMany run.length
          return (← rawUntil mark fuel).map (run ++ ·)

/-- A mark that must come next; if it does not the mark opened on `line` is not closed. -/
def close (mark : Char) (line : Nat) : Reader Unit := do
  match ← look with
  | c :: _ => if c = mark then skip else refuse (.unclosed [mark] line)
  | [] => refuse (.unclosed [mark] line)

/-- The text between backquotes without the backslashes that protect it. -/
def unprotect (inQuotes : Bool) : Bytes → Bytes
  | [] => []
  | '\\' :: c :: rest =>
    if c = '$' || c.toNat = 0x60 || c = '\\' || (inQuotes && c = '"') then
      c :: unprotect inQuotes rest
    else '\\' :: unprotect inQuotes (c :: rest)
  | c :: rest => c :: unprotect inQuotes rest
termination_by cs => cs.length

/-- Whether a byte is a parameter by itself. -/
def isSpecialParameter (c : Char) : Bool :=
  ['@', '*', '#', '?', '-', '$', '!'].contains c

/-- The name of a parameter at the start of a text between braces, and what follows it. -/
def parameterName? (cs : Bytes) : Option (Bytes × Bytes) :=
  match cs with
  | [] => none
  | c :: rest =>
    if isNameStart c then some (cs.takeWhile isNameChar, cs.dropWhile isNameChar)
    else if c.isDigit then some (cs.takeWhile Char.isDigit, cs.dropWhile Char.isDigit)
    else if isSpecialParameter c then some ([c], rest)
    else none

/-- What the readers of the parts of a word need from those of commands. -/
structure Nested where
  /-- Reads commands up to a closing parenthesis. -/
  commands : Reader Command

/-- A fault inside a command that stands in a word. -/
def inWord (dialect : Dialect) (f : SyntaxFault) : SyntaxFault :=
  match dialect, f.cause with
  | .bash, .unexpected .ending _ => { f with cause := .unclosed [')'] f.line }
  | .bash, .unexpected _ _ => { f with status := 127 }
  | _, _ => f

/-- The commands of a word, up to their closing parenthesis. -/
def nestedCommands (n : Nested) : Reader Command := do
  let s ← get
  match n.commands { s with awaited := [] } with
  | .error f => throw (inWord s.dialect f)
  | .ok (c, t) =>
    set { t with awaited := s.awaited }
    match t.rest with
    | ')' :: _ =>
      skip
      pure c
    | [] =>
      if s.dialect = .bash then refuse (.unclosed [')'] t.line)
      else refuse (.unexpected .ending (some ")"))
    | _ => refuse (.unclosed [')'] t.line)

/-- The line of the first command of a text. -/
def firstLine (line : Nat) (cs : Bytes) : Nat :=
  line + (cs.takeWhile fun c => c = ' ' || c = '\t' || c = '\n').count '\n'

mutual

/-- The parts of a text, at a depth of its own brackets. -/
def readParts (n : Nested) : Nat → Manner → Nat → Reader (List Part)
  | 0, _, _ => pure []
  | fuel + 1, m, depth => do
    let s ← get
    match s.rest with
    | [] => pure []
    | c :: rest =>
      let text (bytes : Bytes) (depth : Nat) : Reader (List Part) := do
        return addText m.inQuotes bytes (← readParts n fuel m depth)
      let bash := s.dialect = .bash
      if bash && !m.inQuotes && (c = '<' || c = '>') && rest.head? = some '(' && depth = 0 then
        skipMany 2
        let command ← nestedCommands n
        return .process (c = '>') command :: (← readParts n fuel m depth)
      if m.stops c && depth = 0 then return []
      match c with
      | '\\' =>
        match rest with
        | [] =>
          skip
          return [.literal ['\\']]
        | '\n' :: _ =>
          skipMany 2
          readParts n fuel m depth
        | d :: _ =>
          if m.escapable d then
            skipMany 2
            return .literal [d] :: (← readParts n fuel m depth)
          else
            skip
            text ['\\'] depth
      | '\'' =>
        skip
        if m.singleQuotes then
          let quoted ← takeBytes (· ≠ '\'')
          close '\'' s.line
          return .literal quoted :: (← readParts n fuel m depth)
        else text ['\''] depth
      | '"' =>
        skip
        if m.doubleQuotes then
          let inner ← readParts n fuel .quotes 0
          close '"' s.line
          return .quoted inner :: (← readParts n fuel m depth)
        else if m.dropsQuotes then readParts n fuel m depth
        else text ['"'] depth
      | '$' =>
        match ← readDollar n fuel m with
        | some part => return part :: (← readParts n fuel m depth)
        | none => text ['$'] depth
      | _ =>
        if c.toNat = 0x60 then
          skip
          match ← rawUntil c fuel with
          | none =>
            if bash then refuse (.unclosed [c] s.line)
            else refuse (.other ["EOF in backquote substitution"] false)
          | some raw =>
            skip
            return .outputOf (unprotect m.inQuotes raw) :: (← readParts n fuel m depth)
        else if s.extended && !m.inQuotes && ['?', '*', '+', '@', '!'].contains c &&
            rest.head? = some '(' then
          skipMany 2
          let inner ← readParts n fuel .group 0
          close ')' s.line
          return addText false [c, '('] (inner ++ addText false [')'] (← readParts n fuel m depth))
        else
          let run := ordinary m s.extended s.rest
          if run.isEmpty then
            skip
            text [c]
              (if m.closes c && 0 < depth then depth - 1 else if m.opens c then depth + 1
              else depth)
          else
            skipMany run.length
            text run depth

/-- What a dollar sign stands for; none if for itself. -/
def readDollar (n : Nested) : Nat → Manner → Reader (Option Part)
  | 0, _ => do
    skip
    pure none
  | fuel + 1, m => do
    let s ← get
    let bash := s.dialect = .bash
    skip
    match ← look with
    | '\'' :: _ =>
      if bash && !m.inQuotes then
        skip
        match ← rawUntil '\'' fuel with
        | none => refuse (.unclosed ['\''] s.line)
        | some raw =>
          skip
          return some (.literal (decodeDollar (raw.length + 1) raw))
      else return none
    | '"' :: _ =>
      if bash && !m.inQuotes then
        skip
        let inner ← readParts n fuel .quotes 0
        close '"' s.line
        return some (.quoted inner)
      else return none
    | '{' :: _ =>
      skip
      return some (← readBraced n fuel m.inQuotes s.line)
    | '(' :: '(' :: _ =>
      let before ← get
      skipMany 2
      let inner ← readParts n fuel (.expression '(' ')') 0
      match ← look with
      | ')' :: ')' :: _ =>
        skipMany 2
        return some (.arithmetic inner)
      | [] =>
        if bash then refuse (.unclosed [')'] s.line) else refuse (.other ["Missing '))'"] false)
      | _ =>
        set before
        skip
        let line := firstLine before.line ((← look))
        return some (.output line (← nestedCommands n))
    | '(' :: rest =>
      skip
      let line := firstLine s.line rest
      return some (.output line (← nestedCommands n))
    | '[' :: _ =>
      if bash then
        skip
        let inner ← readParts n fuel (.expression '[' ']') 0
        close ']' s.line
        return some (.arithmetic inner)
      else return none
    | c :: _ =>
      if isNameStart c then
        let name ← takeBytes isNameChar
        return some (.parameter (.mk name .none false) .value)
      else if c.isDigit || isSpecialParameter c then
        skip
        return some (.parameter (.mk [c] .none false) .value)
      else return none
    | [] => return none

/-- What stands between braces after a dollar sign on `line`, from what follows the brace. -/
def readBraced (n : Nested) : Nat → Bool → Nat → Reader Part
  | 0, _, _ => pure (.bad [])
  | fuel + 1, inQuotes, line => do
    let start ← get
    match ← readUse n fuel inQuotes with
    | some part =>
      match ← look with
      | '}' :: _ =>
        skip
        return part
      | [] =>
        if start.dialect = .bash then refuse (.unclosed ['}'] line)
        else refuse (.other ["Missing '\x7d'"] false)
      | _ => readBad n fuel inQuotes line start
    | none => readBad n fuel inQuotes line start

/-- Braces that mean nothing, read again from their start. -/
def readBad (n : Nested) : Nat → Bool → Nat → Source → Reader Part
  | 0, _, _, _ => pure (.bad [])
  | fuel + 1, inQuotes, line, start => do
    set start
    let _ ← readParts n fuel (.braces inQuotes) 0
    let raw := start.rest.take (start.rest.length - (← look).length)
    match ← look with
    | [] =>
      if start.dialect = .bash then refuse (.unclosed ['}'] line)
      else refuse (.other ["Missing '\x7d'"] false)
    | _ =>
      skip
      return .bad ("$\x7b".toList ++ raw ++ ['}'])

/-- An index between brackets, if one comes next. -/
def readIndex (n : Nested) : Nat → Reader (Option Index)
  | 0 => pure none
  | fuel + 1 => do
    match ← look with
    | '[' :: '@' :: ']' :: _ =>
      skipMany 3
      return some .each
    | '[' :: '*' :: ']' :: _ =>
      skipMany 3
      return some .joined
    | '[' :: _ =>
      skip
      let word ← readParts n fuel .index 0
      match ← look with
      | ']' :: _ =>
        skip
        return some (.element word)
      | _ => return none
    | _ => return some .none

/-- A parameter between braces and what is made of it; none if it makes no sense. -/
def readUse (n : Nested) : Nat → Bool → Reader (Option Part)
  | 0, _ => pure none
  | fuel + 1, inQuotes => do
    let bash ← isBash
    let cs ← look
    let target (name : Bytes) (indirect : Bool) : Reader (Option Target) := do
      if bash && name.head?.any isNameStart then
        match ← readIndex n fuel with
        | some index => return some (.mk name index indirect)
        | none => return none
      else return some (.mk name .none indirect)
    let operated (name : Bytes) (rest : Bytes) (indirect : Bool) : Reader (Option Part) := do
      skipMany ((← look).length - rest.length)
      match ← target name indirect with
      | none => return none
      | some t => return (← readOperator n fuel inQuotes).map (.parameter t)
    let plain : Reader (Option Part) := do
      match parameterName? cs with
      | some (name, rest) => operated name rest false
      | none => return none
    match cs with
    | '#' :: '}' :: _ => plain
    | '#' :: rest =>
      match parameterName? rest with
      | none => plain
      | some (name, after) =>
        let before ← get
        skipMany (cs.length - after.length)
        let t ← target name false
        match t, ← look with
        | some t, '}' :: _ => return some (.parameter t .length)
        | _, _ =>
          set before
          plain
    | '!' :: rest =>
      match bash, parameterName? rest with
      | true, some (name, after) =>
        match after with
        | '*' :: '}' :: _ =>
          skipMany (cs.length - after.length + 1)
          return some (.parameter (.mk name .none false) (.names true))
        | '@' :: '}' :: _ =>
          skipMany (cs.length - after.length + 1)
          return some (.parameter (.mk name .none false) (.names false))
        | '[' :: x :: ']' :: '}' :: _ =>
          if x = '@' || x = '*' then
            skipMany (cs.length - after.length + 3)
            return some (.parameter (.mk name (if x = '@' then .each else .joined) false) .indices)
          else operated name after true
        | _ =>
          if isSpecialParameter ((name.head?).getD 'a') && after.head? ≠ some '}' then plain
          else operated name after true
      | _, _ => plain
    | _ => plain

/-- What is made of a parameter, up to the closing brace; none if it makes no sense. -/
def readOperator (n : Nested) : Nat → Bool → Reader (Option Use)
  | 0, _ => pure none
  | fuel + 1, inQuotes => do
    let bash ← isBash
    let word : Reader Word := readParts n fuel (.braces inQuotes) 0
    let pattern : Reader Word := readParts n fuel (.bracedPattern false) 0
    let changed (change : CaseChange) (mark : Char) : Reader (Option Use) := do
      skip
      let all := (← look).head? = some mark
      if all then skip
      return some (.change change all (← pattern))
    match ← look with
    | '}' :: _ => return some .value
    | ':' :: '-' :: _ =>
      skipMany 2
      return some (.default true (← word))
    | ':' :: '=' :: _ =>
      skipMany 2
      return some (.assign true (← word))
    | ':' :: '?' :: _ =>
      skipMany 2
      return some (.insist true (← word))
    | ':' :: '+' :: _ =>
      skipMany 2
      return some (.alternative true (← word))
    | '-' :: _ =>
      skip
      return some (.default false (← word))
    | '=' :: _ =>
      skip
      return some (.assign false (← word))
    | '?' :: _ =>
      skip
      return some (.insist false (← word))
    | '+' :: _ =>
      skip
      return some (.alternative false (← word))
    | '#' :: '#' :: _ =>
      skipMany 2
      return some (.drop false true (← pattern))
    | '#' :: _ =>
      skip
      return some (.drop false false (← pattern))
    | '%' :: '%' :: _ =>
      skipMany 2
      return some (.drop true true (← pattern))
    | '%' :: _ =>
      skip
      return some (.drop true false (← pattern))
    | [] => return some .value
    | c :: rest =>
      if !bash then return none
      match c, rest with
      | ':', _ =>
        skip
        let offset ← readParts n fuel .slice 0
        match ← look with
        | ':' :: _ =>
          skip
          return some (.slice offset (some (← readParts n fuel .slice 0)))
        | _ => return some (.slice offset none)
      | '/', d :: _ =>
        skip
        let extent ←
          if d = '/' then do
            skip
            pure Extent.all
          else if d = '#' then do
            skip
            pure Extent.atStart
          else if d = '%' then do
            skip
            pure Extent.atEnd
          else pure Extent.first
        let p ← readParts n fuel (.bracedPattern true) 0
        match ← look with
        | '/' :: _ =>
          skip
          return some (.replace extent p (← word))
        | _ => return some (.replace extent p [])
      | '^', _ => changed .upper '^'
      | ',', _ => changed .lower ','
      | '~', _ => changed .toggle '~'
      | '@', d :: '}' :: _ =>
        skipMany 2
        return some (.transform d)
      | _, _ => return none

end

/-- A word that comes next. -/
def readWord (n : Nested) (m : Manner) : Reader Word := do readParts n (← ample) m 0

end Provision.Shell
