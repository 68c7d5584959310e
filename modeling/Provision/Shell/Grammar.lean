import Provision.Shell.Word

/-!
# Reading commands

The commands of a script are read one line at a time, so that a shell can run a line before it knows
the next one. All readers are bounded by a fuel that no script uses up.
-/

namespace Provision.Shell

/-! ## Tokens -/

/-- The token that comes next. -/
def nextToken (n : Nested) : Reader Token := do
  blanks
  let s ← get
  match s.rest with
  | [] => return .ending
  | '\n' :: _ => return .newline
  | cs =>
    match operatorAt (redirectionOperators s.dialect) cs with
    | some op => return .redirection op
    | none =>
      match operatorAt (controlOperators s.dialect) cs with
      | some op => return .operator op
      | none =>
        let _ ← readWord n .word
        let after ← look
        set s
        return .word (cs.take (cs.length - after.length))

/-- What comes next cannot stand here. -/
def unexpected (n : Nested) (expected : Option String) : Reader α := do
  let t ← nextToken n
  refuse (.unexpected t expected)

/-- The words that build commands. -/
def reservedWords : Dialect → List String
  | .bash =>
    ["if", "then", "elif", "else", "fi", "while", "until", "for", "in", "do", "done", "case",
      "esac", "\x7b", "\x7d", "!", "function", "select", "time", "[["]
  | .plain =>
    ["if", "then", "elif", "else", "fi", "while", "until", "for", "in", "do", "done", "case",
      "esac", "\x7b", "\x7d", "!"]

/-- The words that end a list of commands. -/
def closingWords : List String := ["then", "elif", "else", "fi", "do", "done", "esac", "\x7d"]

/-- The word of plain bytes that comes next. -/
def bareWord : Reader Bytes := do
  blanks
  return (← look).takeWhile (!isMeta ·)

/-- The reserved word that comes next, if one does. -/
def reserved : Reader (Option String) := do
  let word := shown (← bareWord)
  let s ← get
  return if (reservedWords s.dialect).contains word then some word else none

/-- Whether a word comes next, which is then passed. -/
def tryWord (word : String) : Reader Bool := do
  if shown (← bareWord) = word then
    skipMany word.length
    return true
  else return false

/-- The control operator that comes next, if one does. -/
def controlHere : Reader (Option Bytes) := do
  blanks
  let s ← get
  return operatorAt (controlOperators s.dialect) s.rest

/-- Whether a control operator comes next, which is then passed. -/
def tryControl (op : String) : Reader Bool := do
  if (← controlHere) = some op.toList then
    skipMany op.length
    return true
  else return false

/-! ## Documents -/

/-- The lines up to a delimiter, whether it was found. -/
def documentLines (a : Awaited) : Nat → Reader (List Bytes × Bool)
  | 0 => pure ([], false)
  | fuel + 1 => do
    match ← look with
    | [] => return ([], false)
    | cs =>
      let line := cs.takeWhile (· ≠ '\n')
      let content := if a.stripped then line.dropWhile (· = '\t') else line
      skipMany (line.length + 1)
      if content = a.delimiter then return ([], true)
      let (rest, found) ← documentLines a fuel
      return (content :: rest, found)

/-- Reads a document that was announced. -/
def readDocument (n : Nested) (a : Awaited) : Reader Unit := do
  let s ← get
  let (lines, found) ← documentLines a (s.rest.length + 1)
  let body := lines.flatMap (· ++ ['\n'])
  let t ← get
  let parts ←
    if a.expanded then
      match (readParts n (2 * body.length + 10) .document 0)
          { t with rest := body, line := s.line, lineStart := body } with
      | .ok (parts, _) => pure parts
      | .error f => throw f
    else pure [.literal body]
  let warnings :=
    if found || s.dialect = .plain then t.warnings
    else
      (t.line - 1, "warning: here-document at line " ++ toString a.line ++
        " delimited by end-of-file (wanted \x60" ++ shown a.delimiter ++ "')") :: t.warnings
  set { t with documents := (a.index, parts) :: t.documents, warnings }

/-- Past a line break, and the documents after it. -/
def lineBreak (n : Nested) : Reader Unit := do
  skip
  let s ← get
  set { s with awaited := [] }
  s.awaited.reverse.forM (readDocument n)

/-- Past blanks, comments and line breaks. -/
def skipLines (n : Nested) : Nat → Reader Unit
  | 0 => pure ()
  | fuel + 1 => do
    blanks
    match ← look with
    | '\n' :: _ =>
      lineBreak n
      skipLines n fuel
    | _ => pure ()

/-- Past all blanks, comments and line breaks. -/
def lineBreaks (n : Nested) : Reader Unit := do skipLines n ((← look).length + 1)

/-! ## Words of commands -/

/-- Whether a part is written without quotes. -/
def Part.isUnquoted : Part → Bool
  | .plain _ => true
  | _ => false

/-- The text of a word that is not expanded, without its quotes. -/
def bareText : List Part → Bytes
  | [] => []
  | .plain s :: rest => s ++ bareText rest
  | .literal s :: rest => s ++ bareText rest
  | .quoted inner :: rest => bareText inner ++ bareText rest
  | .parameter (.mk name _ _) .value :: rest => '$' :: name ++ bareText rest
  | _ :: rest => bareText rest

/-- The digits right before an operator that redirects. -/
def descriptorAhead (cs : Bytes) : Option Nat :=
  let digits := cs.takeWhile Char.isDigit
  match digits, cs.drop digits.length with
  | _ :: _, c :: _ =>
    if (c = '<' || c = '>') && digits.length < 10 then
      some (digits.foldl (fun n c => n * 10 + (c.toNat - 48)) 0)
    else none
  | _, _ => none

/-- The name between braces right before an operator that redirects. -/
def keptAhead (cs : Bytes) : Option Bytes :=
  match cs with
  | '{' :: rest =>
    let name := rest.takeWhile isNameChar
    match rest.drop name.length with
    | '}' :: c :: _ => if isName name && (c = '<' || c = '>') then some name else none
    | _ => none
  | _ => none

/-- Announces a document. -/
def awaitDocument (stripped : Bool) (delimiter : Word) : Reader Nat := do
  let s ← get
  let index := s.nextDocument
  let a : Awaited :=
    ⟨index, bareText delimiter, stripped, delimiter.all Part.isUnquoted, s.line⟩
  set { s with nextDocument := index + 1, awaited := a :: s.awaited }
  return index

/-- A redirection by an operator that was passed. -/
def redirectionOf (n : Nested) (op : String) (fd : Option Nat) (kept : Option Bytes) :
    Reader Redirection := do
  blanks
  match ← nextToken n with
  | .word _ => pure ()
  | _ => unexpected n none
  let word ← readWord n .word
  let make (standard : Nat) (d : Direction) (word : Word) : Redirection :=
    match kept with
    | some name => .kept name d word
    | none => .mk (fd.getD standard) d word
  match op with
  | "<" => return make 0 .read word
  | ">" => return make 1 .write word
  | ">|" => return make 1 .clobber word
  | ">>" => return make 1 .append word
  | "<>" => return make 0 .readWrite word
  | "<&" => return make 0 .duplicateIn word
  | ">&" => return make 1 .duplicateOut word
  | "<<<" => return make 0 .text word
  | "<<" => return make 0 (.document (← awaitDocument false word)) []
  | "<<-" => return make 0 (.document (← awaitDocument true word)) []
  | "&>" => return .both false word
  | _ => return .both true word

/-- A redirection that comes next, if one does. -/
def redirection (n : Nested) : Reader (Option Redirection) := do
  blanks
  let s ← get
  let fd := descriptorAhead s.rest
  let kept := if s.dialect = .bash then keptAhead s.rest else none
  let before :=
    match fd, kept with
    | some _, _ => (s.rest.takeWhile Char.isDigit).length
    | none, some name => name.length + 2
    | none, none => 0
  match operatorAt (redirectionOperators s.dialect) (s.rest.drop before) with
  | none => return none
  | some op =>
    if (s.rest.drop (before + op.length - 1)).head? = some '<' && s.dialect = .bash &&
        op.length = 1 && (s.rest.drop (before + 1)).head? = some '(' then return none
    if op = ['>'] && s.dialect = .bash && (s.rest.drop (before + 1)).head? = some '(' then
      return none
    skipMany (before + op.length)
    return some (← redirectionOf n (shown op) fd kept)

/-- Redirections up to what is none. -/
def redirections (n : Nested) : Nat → Reader (List Redirection)
  | 0 => pure []
  | fuel + 1 => do
    match ← redirection n with
    | none => return []
    | some r => return r :: (← redirections n fuel)

/-- The elements of a list that is assigned, up to its closing parenthesis. -/
def listItems (n : Nested) (line : Nat) : Nat → Reader (List Item)
  | 0 => pure []
  | fuel + 1 => do
    lineBreaks n
    let s ← get
    match s.rest with
    | [] =>
      throw ⟨.unclosed [')'] line, line, [], 1⟩
    | ')' :: _ =>
      skip
      return []
    | '[' :: _ =>
      match (readIndex n (2 * s.rest.length + 10)) s with
      | .ok (some (.element index), t) =>
        match t.rest with
        | '=' :: _ =>
          set t
          skip
          let word ← readWord n .word
          return .at index false word :: (← listItems n line fuel)
        | '+' :: '=' :: _ =>
          set t
          skipMany 2
          let word ← readWord n .word
          return .at index true word :: (← listItems n line fuel)
        | _ => plainItem s fuel
      | _ => plainItem s fuel
    | _ => plainItem s fuel
where
  /-- An element without an index. -/
  plainItem (s : Source) (fuel : Nat) : Reader (List Item) := do
    match ← nextToken n with
    | .word _ =>
      let word ← readWord n .word
      return .word word :: (← listItems n line fuel)
    | t => throw ⟨.unexpected t none, s.line, s.lineStart.takeWhile (· ≠ '\n'), 1⟩

/-- An assignment that comes next, if one does. -/
def assignment (n : Nested) : Reader (Option Assignment) := do
  blanks
  let s ← get
  let name := s.rest.takeWhile isNameChar
  if !isName name then return none
  skipMany name.length
  let bash := s.dialect = .bash
  let index? : Option Index ←
    if bash && (← look).head? = some '[' then
      match (readIndex n (2 * s.rest.length + 10)) (← get) with
      | .ok (some (.element w), t) => do
        set t
        pure (some (.element w))
      | .ok (some .each, t) => do
        set t
        pure (some (.element [.plain ['@']]))
      | .ok (some .joined, t) => do
        set t
        pure (some (.element [.plain ['*']]))
      | _ => pure none
    else pure (some .none)
  let index : Option Word :=
    match index? with
    | some (.element w) => some w
    | _ => none
  match index?, ← look with
  | none, _ =>
    set s
    return none
  | some _, '=' :: rest =>
    skip
    if bash && index.isNone && rest.head? = some '(' then
      let line := (← get).line
      skip
      return some (.list name false (← listItems n line (← ample)))
    return some (.text name index false (← readWord n .word))
  | some _, '+' :: '=' :: rest =>
    if bash then
      skipMany 2
      if index.isNone && rest.head? = some '(' then
        let line := (← get).line
        skip
        return some (.list name true (← listItems n line (← ample)))
      return some (.text name index true (← readWord n .word))
    else
      set s
      return none
  | some _, _ =>
    set s
    return none

/-- The commands whose arguments may be assignments. -/
def declaringCommands : Dialect → List String
  | .bash => ["declare", "typeset", "export", "readonly", "local"]
  | .plain => ["export", "readonly", "local"]

/-- A word of a command, which may be an assignment. -/
def argument (n : Nested) (declares : Bool) : Reader Argument := do
  blanks
  let s ← get
  let a ← if declares then assignment n else pure none
  let rawTo (rest : Bytes) : Bytes := s.rest.take (s.rest.length - rest.length)
  match a with
  | some a =>
    let t ← get
    match a with
    | .list _ _ _ => return .assignment (rawTo t.rest) a [.literal (rawTo t.rest)]
    | .text _ _ _ _ =>
      set s
      let parts ← readWord n .word
      return .assignment (rawTo t.rest) a parts
  | none =>
    let parts ← readWord n .word
    return .word (rawTo (← look)) parts

/-! ## Conditions between double brackets -/

/-- The operators on one word. -/
def unaryOperators : List String :=
  ["-a", "-b", "-c", "-d", "-e", "-f", "-g", "-h", "-k", "-n", "-o", "-p", "-r", "-s", "-t", "-u",
    "-v", "-w", "-x", "-z", "-G", "-L", "-N", "-O", "-R", "-S"]

/-- The operators on two words. -/
def binaryOperators : List String :=
  ["=", "==", "!=", "=~", "-eq", "-ne", "-lt", "-le", "-gt", "-ge", "-nt", "-ot", "-ef"]

/-- A token as it is named in a diagnostic. -/
def Token.label : Token → String
  | newline => "newline"
  | ending => "EOF"
  | word raw => shown raw
  | operator name => shown name
  | redirection name => shown name

/-- A condition is at fault. -/
def refuseCondition (message : Token → String) (n : Nested) (fallback : Option Token) :
    Reader α := do
  let t ← nextToken n
  let said := if (message t).isEmpty then [] else [message t]
  match t with
  | .ending => refuse (.other (said ++ ["syntax error: unexpected end of file"]) false)
  | _ =>
    let near :=
      match t, fallback with
      | .newline, some f => f
      | t, _ => t
    refuse (.other (said ++ ["syntax error near \x60" ++ near.label ++ "'"]) true)

/-- A pattern or word on the right of an operator. -/
def operand (n : Nested) (m : Manner) (before : Bytes) : Reader Word := do
  blanks
  let said (t : Token) : String :=
    "unexpected argument \x60" ++ t.label ++ "' to conditional binary operator"
  let s ← get
  match m.stops '(', ← nextToken n with
  | true, .word raw =>
    if shown raw = "]]" then refuseCondition said n none
    let s ← get
    set { s with extended := true }
    let word ← readWord n m
    modify fun t => { t with extended := s.extended }
    return word
  | true, _ => refuseCondition said n (some (.word before))
  | false, _ =>
    match s.rest with
    | [] | '\n' :: _ => refuseCondition said n (some (.word before))
    | cs =>
      if cs.takeWhile (!isMeta ·) = "]]".toList then refuseCondition said n none
      readWord n m

mutual

/-- A condition with its alternatives. -/
def conditionOr (n : Nested) : Nat → Reader Condition
  | 0 => unexpected n none
  | fuel + 1 => do
    let a ← conditionAnd n fuel
    lineBreaks n
    if ← tryControl "||" then
      let b ← conditionOr n fuel
      return .or a b
    return a

/-- A condition of several that must all hold. -/
def conditionAnd (n : Nested) : Nat → Reader Condition
  | 0 => unexpected n none
  | fuel + 1 => do
    let a ← conditionTerm n fuel
    lineBreaks n
    if ← tryControl "&&" then
      let b ← conditionAnd n fuel
      return .and a b
    return a

/-- A single condition. -/
def conditionTerm (n : Nested) : Nat → Reader Condition
  | 0 => unexpected n none
  | fuel + 1 => do
    lineBreaks n
    let t ← nextToken n
    match t with
    | .operator ['('] =>
      skip
      let c ← conditionOr n fuel
      lineBreaks n
      if ← tryControl ")" then return .grouped c
      refuseCondition (fun t => "unexpected token \x60" ++ t.label ++ "', expected \x60)'") n none
    | .word raw =>
      if raw = ['!'] then
        skip
        return .not (← conditionTerm n fuel)
      if shown raw = "]]" then refuseCondition (fun _ => "") n none
      if unaryOperators.contains (shown raw) then
        skipMany raw.length
        match ← nextToken n with
        | .word next =>
          if shown next = "]]" then
            refuseCondition (fun t =>
              "unexpected argument \x60" ++ t.label ++ "' to conditional unary operator") n none
          if binaryOperators.contains (shown next) then
            let s ← get
            skipMany next.length
            match ← nextToken n with
            | .word third =>
              if shown third ≠ "]]" then
                set s
                return ← conditionRest n fuel raw [.plain raw]
              set s
            | _ => set s
          return .unary raw (← readWord n .word)
        | _ =>
          refuseCondition (fun t =>
            "unexpected argument \x60" ++ t.label ++ "' to conditional unary operator") n
            (some (.word raw))
      let a ← readWord n .word
      conditionRest n fuel raw a
    | .ending =>
      refuseCondition (fun _ => "unexpected token \x60EOF' in conditional command") n none
    | _ => refuseCondition (fun _ => "") n none

/-- What follows the first word of a condition. -/
def conditionRest (n : Nested) : Nat → Bytes → Word → Reader Condition
  | 0, _, _ => unexpected n none
  | _ + 1, raw, a => do
    match ← nextToken n with
    | .redirection ['<'] =>
      skip
      return .binary .before ['<'] a (← operand n .word ['<'])
    | .redirection ['>'] =>
      skip
      return .binary .after ['>'] a (← operand n .word ['>'])
    | .operator _ => return .word a
    | .word op =>
      if shown op = "]]" then return .word a
      if binaryOperators.contains (shown op) then
        skipMany op.length
        match shown op with
        | "=" | "==" => return .binary .matches op a (← operand n .word op)
        | "!=" => return .binary .differs op a (← operand n .word op)
        | "=~" =>
          let b ← operand n .regex op
          return .binary .isMatchedBy op a b
        | _ => return .binary (.named op) op a (← operand n .word op)
      refuseCondition (fun _ => "conditional binary operator expected") n none
    | .ending =>
      refuseCondition (fun _ => "unexpected token \x60EOF' in conditional command") n none
    | _ =>
      refuseCondition (fun t =>
        "unexpected token \x60" ++ t.label ++ "', conditional binary operator expected") n
        (some (.word raw))

end

/-! ## Commands -/

/-- Whether a list of commands ends here. -/
def endsList : Reader Bool := do
  blanks
  let s ← get
  match s.rest with
  | [] => return true
  | ')' :: _ => return true
  | ';' :: ';' :: _ => return true
  | ';' :: '&' :: _ => return s.dialect = .bash
  | _ =>
    match ← reserved with
    | some w => return closingWords.contains w
    | none => return false

/-- A word that must come next. -/
def expectWord (n : Nested) (word : String) : Reader Unit := do
  if !(← tryWord word) then unexpected n (some word)

/-- An operator that must come next. -/
def expectControl (n : Nested) (op : String) : Reader Unit := do
  if !(← tryControl op) then unexpected n (some op)

/-- Several commands as one. -/
def sequenceOf : List Command → Command
  | [c] => c
  | cs => .sequence cs

/-- A command with its redirections. -/
def withRedirections (c : Command) (rs : List Redirection) : Command :=
  if rs.isEmpty then c else .redirected c rs

/-- Output and diagnostics of a command together into a pipe. -/
def withDiagnostics (c : Command) : Command :=
  .redirected c [.mk 2 .duplicateOut [.plain ['1']]]

/-- Words up to a line break or semicolon. -/
def wordList (n : Nested) : Nat → Reader (List Word)
  | 0 => pure []
  | fuel + 1 => do
    match ← nextToken n with
    | .word _ =>
      let w ← readWord n .word
      return w :: (← wordList n fuel)
    | _ => return []

/-- The three expressions of a counted loop and what is wrong otherwise. -/
def countParts (n : Nested) (start : Bytes) : Nat → Reader (List Word)
  | 0 => pure []
  | fuel + 1 => do
    let part ← readWord n .countPart
    match ← look with
    | ';' :: _ =>
      skip
      return part :: (← countParts n start fuel)
    | ')' :: ')' :: _ =>
      skipMany 2
      return [part]
    | _ => refuse (.unclosed [')'] (← get).line)

mutual

/-- A list of commands up to what ends it. -/
def readList : Nat → Reader Command
  | 0 => refuse (.unexpected .ending none)
  | fuel + 1 => do
    let n : Nested := ⟨readList fuel⟩
    lineBreaks n
    if (← look).isEmpty then return .nothing
    return sequenceOf (← readItems fuel)

/-- The commands of a list, of which there is one at least. -/
def readItems : Nat → Reader (List Command)
  | 0 => pure []
  | fuel + 1 => do
    let n : Nested := ⟨readList fuel⟩
    let c ← readAndOr fuel
    match ← nextToken n with
    | .operator ['&'] =>
      skip
      lineBreaks n
      if ← endsList then return [.background c]
      return .background c :: (← readItems fuel)
    | .operator [';'] =>
      skip
      lineBreaks n
      if ← endsList then return [c]
      return c :: (← readItems fuel)
    | .newline =>
      lineBreaks n
      if ← endsList then return [c]
      return c :: (← readItems fuel)
    | _ =>
      if ← endsList then return [c]
      unexpected n none

/-- Pipelines joined by conditions. -/
def readAndOr : Nat → Reader Command
  | 0 => refuse (.unexpected .ending none)
  | fuel + 1 => do
    let n : Nested := ⟨readList fuel⟩
    let c ← readPipeline fuel
    readMore n fuel c

/-- What is joined to a command by conditions. -/
def readMore : Nested → Nat → Command → Reader Command
  | _, 0, c => pure c
  | n, fuel + 1, c => do
    if ← tryControl "&&" then
      lineBreaks n
      let d ← readPipeline fuel
      readMore n fuel (.both c d)
    else if ← tryControl "||" then
      lineBreaks n
      let d ← readPipeline fuel
      readMore n fuel (.either c d)
    else return c

/-- Commands of which each reads what the one before writes. -/
def readPipeline : Nat → Reader Command
  | 0 => refuse (.unexpected .ending none)
  | fuel + 1 => do
    let n : Nested := ⟨readList fuel⟩
    let bash ← isBash
    if ← tryWord "!" then
      let atEnd ←
        match ← nextToken n with
        | .newline | .ending => pure true
        | .operator [';'] => pure true
        | _ => pure false
      if bash && atEnd then return .pipeline true false []
      if !bash && (← reserved) = some "!" then unexpected n none
      match ← readPipeline fuel with
      | .pipeline negated timed cs => return .pipeline (!negated) timed cs
      | c => return .pipeline true false [c]
    if bash && (← reserved) = some "time" then
      skipMany 4
      let _ ← tryWord "-p"
      match ← nextToken n with
      | .newline | .ending => return .pipeline false true []
      | .operator [';'] => return .pipeline false true []
      | _ =>
        match ← readPipeline fuel with
        | .pipeline negated _ cs => return .pipeline negated true cs
        | c => return .pipeline false true [c]
    match ← readPiped fuel with
    | [c] => return c
    | cs => return .pipeline false false cs

/-- The commands of a pipeline. -/
def readPiped : Nat → Reader (List Command)
  | 0 => pure []
  | fuel + 1 => do
    let n : Nested := ⟨readList fuel⟩
    let c ← readCommand fuel
    if ← tryControl "|&" then
      lineBreaks n
      return withDiagnostics c :: (← readPiped fuel)
    else if ← tryControl "|" then
      lineBreaks n
      return c :: (← readPiped fuel)
    else return [c]

/-- A list of commands that must not be empty, but for the end of the script. -/
def readBody : Nat → Reader Command
  | 0 => refuse (.unexpected .ending none)
  | fuel + 1 => readList fuel

/-- A single command. -/
def readCommand : Nat → Reader Command
  | 0 => refuse (.unexpected .ending none)
  | fuel + 1 => do
    let n : Nested := ⟨readList fuel⟩
    let bash ← isBash
    blanks
    match ← reserved with
    | some "function" => readFunction fuel
    | some _ | none =>
      match ← readCompound fuel with
      | some c => return withRedirections c (← redirections n (← ample))
      | none =>
        match ← nextToken n with
        | .word raw =>
          if ((reservedWords (if bash then .bash else .plain)).contains (shown raw)) &&
              !(bash && (shown raw = "!" || shown raw = "time")) then
            unexpected n none
          readSimple fuel
        | .redirection _ => readSimple fuel
        | _ => unexpected n none

/-- A command that is built of others, if one comes next. -/
def readCompound : Nat → Reader (Option Command)
  | 0 => refuse (.unexpected .ending none)
  | fuel + 1 => do
    let n : Nested := ⟨readList fuel⟩
    let bash ← isBash
    blanks
    let s ← get
    match s.rest with
    | '(' :: '(' :: _ =>
      if bash then
        skipMany 2
        let parts ← readWord n (.expression '(' ')')
        match ← look with
        | ')' :: ')' :: _ =>
          skipMany 2
          return some (.calculation s.line parts)
        | [] => refuse (.unclosed [')'] s.line)
        | _ => set s
      skip
      let c ← readBody fuel
      expectControl n ")"
      return some (.subshell c)
    | '(' :: _ =>
      skip
      let c ← readBody fuel
      expectControl n ")"
      return some (.subshell c)
    | _ => pure ()
    match ← reserved with
    | some "\x7b" =>
      skip
      let c ← readBody fuel
      expectWord n "\x7d"
      return some (.group c)
    | some "if" =>
      skipMany 2
      return some (← readBranches fuel)
    | some "while" =>
      skipMany 5
      let c ← readBody fuel
      return some (.repeated false c (← readDo fuel))
    | some "until" =>
      skipMany 5
      let c ← readBody fuel
      return some (.repeated true c (← readDo fuel))
    | some "for" =>
      skipMany 3
      return some (← readFor fuel s.line)
    | some "select" =>
      skipMany 6
      let (name, words) ← readRange n
      return some (.menu s.line name words (← readDo fuel))
    | some "case" =>
      skipMany 4
      match bash, ← nextToken n with
      | _, .word _ => pure ()
      | true, _ => unexpected n none
      | false, _ => unexpected n (some "word")
      let word ← readWord n .word
      lineBreaks n
      expectWord n "in"
      lineBreaks n
      return some (.select s.line word (← readClauses fuel))
    | some "[[" =>
      skipMany 2
      let c ← conditionOr n (← ample)
      lineBreaks n
      if !(← tryWord "]]") then
        match ← nextToken n with
        | .ending =>
          refuse (.other ["unexpected EOF while looking for \x60]]'",
            "syntax error: unexpected end of file"] false)
        | _ => refuseCondition (fun _ => "") n none
      return some (.condition s.line c)
    | _ => return none

/-- The branches of a conditional command, from its first condition on. -/
def readBranches : Nat → Reader Command
  | 0 => refuse (.unexpected .ending none)
  | fuel + 1 => do
    let n : Nested := ⟨readList fuel⟩
    let condition ← readBody fuel
    expectWord n "then"
    let body ← readBody fuel
    if ← tryWord "elif" then
      match ← readBranches fuel with
      | .branch branches otherwise => return .branch ((condition, body) :: branches) otherwise
      | c => return .branch [(condition, body)] (some c)
    else if ← tryWord "else" then
      let otherwise ← readBody fuel
      expectWord n "fi"
      return .branch [(condition, body)] (some otherwise)
    else
      expectWord n "fi"
      return .branch [(condition, body)] none

/-- The body of a loop. -/
def readDo : Nat → Reader Command
  | 0 => refuse (.unexpected .ending none)
  | fuel + 1 => do
    let n : Nested := ⟨readList fuel⟩
    if (← isBash) && (← reserved) = some "\x7b" then
      skip
      let c ← readBody fuel
      expectWord n "\x7d"
      return c
    expectWord n "do"
    let c ← readBody fuel
    expectWord n "done"
    return c

/-- The variable of a loop and the words that it runs over. -/
def readRange : Nested → Reader (Bytes × Option (List Word))
  | n => do
    let bash ← isBash
    match bash, ← nextToken n with
    | true, .word _ => pure ()
    | true, _ => unexpected n none
    | false, .word raw =>
      if !isName raw then refuse (.other ["Syntax error: Bad for loop variable"] false)
    | false, _ => refuse (.other ["Syntax error: Bad for loop variable"] false)
    let s ← get
    let word ← readWord n .word
    let name :=
      match word with
      | [.plain t] => t
      | _ => s.rest.take 20 |>.takeWhile (!isMeta ·)
    if ← tryControl ";" then
      lineBreaks n
      return (name, none)
    lineBreaks n
    if ← tryWord "in" then
      let words ← wordList n (← ample)
      match ← nextToken n with
      | .newline => lineBreaks n
      | .operator [';'] =>
        skip
        lineBreaks n
      | _ => unexpected n none
      return (name, some words)
    return (name, none)

/-- A loop over words or with a count, after its first word. -/
def readFor : Nat → Nat → Reader Command
  | 0, _ => refuse (.unexpected .ending none)
  | fuel + 1, line => do
    let n : Nested := ⟨readList fuel⟩
    blanks
    let s ← get
    match s.dialect, s.rest with
    | .bash, '(' :: '(' :: _ =>
      skipMany 2
      let parts ← countParts n s.rest (← ample)
      let raw := s.rest.take (s.rest.length - (← look).length)
      match parts with
      | [a, b, c] =>
        let _ ← tryControl ";"
        lineBreaks n
        return .count line a b c (← readDo fuel)
      | _ =>
        refuse (.other ["syntax error: arithmetic expression required",
          "syntax error: \x60" ++ shown raw ++ "'"] false)
    | _, _ =>
      let (name, words) ← readRange n
      return .each line name words (← readDo fuel)

/-- The clauses of a selection. -/
def readClauses : Nat → Reader (List Clause)
  | 0 => pure []
  | fuel + 1 => do
    let n : Nested := ⟨readList fuel⟩
    lineBreaks n
    if ← tryWord "esac" then return []
    let _ ← tryControl "("
    let patterns ← readPatterns fuel
    expectControl n ")"
    lineBreaks n
    let empty ←
      match ← controlHere with
      | some [';', ';'] | some [';', '&'] | some [';', ';', '&'] => pure true
      | _ => return ← readClauseBody fuel patterns
    if empty then readClauseEnd fuel patterns .nothing else pure []

/-- The alternatives of a clause. -/
def readPatterns : Nat → Reader (List Word)
  | 0 => pure []
  | fuel + 1 => do
    let n : Nested := ⟨readList fuel⟩
    match ← isBash, ← nextToken n with
    | _, .word _ => pure ()
    | true, _ => unexpected n none
    | false, _ => unexpected n (some ")")
    let w ← readWord n .word
    if ← tryControl "|" then return w :: (← readPatterns fuel)
    return [w]

/-- The commands of a clause, and the clauses after it. -/
def readClauseBody : Nat → List Word → Reader (List Clause)
  | 0, _ => pure []
  | fuel + 1, patterns => do
    if ← tryWord "esac" then return [.mk patterns .nothing .stop]
    let body ← readBody fuel
    readClauseEnd fuel patterns body

/-- What ends a clause, and the clauses after it. -/
def readClauseEnd : Nat → List Word → Command → Reader (List Clause)
  | 0, _, _ => pure []
  | fuel + 1, patterns, body => do
    let n : Nested := ⟨readList fuel⟩
    if ← tryControl ";;&" then return .mk patterns body .test :: (← readClauses fuel)
    if ← tryControl ";;" then return .mk patterns body .stop :: (← readClauses fuel)
    if ← tryControl ";&" then return .mk patterns body .fallThrough :: (← readClauses fuel)
    if ← tryWord "esac" then return [.mk patterns body .stop]
    unexpected n (some ";;")

/-- A function, after its first word. -/
def readFunction : Nat → Reader Command
  | 0 => refuse (.unexpected .ending none)
  | fuel + 1 => do
    let n : Nested := ⟨readList fuel⟩
    skipMany 8
    match ← nextToken n with
    | .word raw =>
      skipMany raw.length
      if ← tryControl "(" then expectControl n ")"
      lineBreaks n
      return .function raw (← readFunctionBody fuel)
    | _ => unexpected n none

/-- The body of a function. -/
def readFunctionBody : Nat → Reader Command
  | 0 => refuse (.unexpected .ending none)
  | fuel + 1 => do
    let n : Nested := ⟨readList fuel⟩
    if ← isBash then
      match ← readCompound fuel with
      | some c => return withRedirections c (← redirections n (← ample))
      | none => unexpected n none
    else readCommand fuel

/-- A command of words, assignments and redirections. -/
def readSimple : Nat → Reader Command
  | 0 => refuse (.unexpected .ending none)
  | fuel + 1 => do
    let n : Nested := ⟨readList fuel⟩
    let bash ← isBash
    let first ← get
    readElements n fuel first.line 0 false [] [] []
      bash

/-- The elements of a simple command: how many were read, whether assignments are arguments, and the
assignments, words and redirections so far, latest first. -/
def readElements : Nested → Nat → Nat → Nat → Bool → List Assignment → List Argument →
    List Redirection → Bool → Reader Command
  | _, 0, line, _, _, as, ws, rs, _ => pure (.simple line as.reverse ws.reverse rs.reverse)
  | n, fuel + 1, line, count, declares, as, ws, rs, bash => do
    let finish : Reader Command := pure (.simple line as.reverse ws.reverse rs.reverse)
    let here (l : Nat) : Reader Nat := do
      let s ← get
      return if count < 2 && bash then s.line else l
    match ← redirection n with
    | some r =>
      readElements n fuel (← here line) (count + 1) declares as ws (r :: rs) bash
    | none =>
      match ← nextToken n with
      | .word raw =>
        if ws.isEmpty then
          match ← assignment n with
          | some a => readElements n fuel (← here line) (count + 1) false (a :: as) ws rs bash
          | none =>
            let w ← readWord n .word
            let name := shown raw
            let declares := (declaringCommands (if bash then .bash else .plain)).contains name
            match count, ← controlHere with
            | 0, some ['('] =>
              skip
              expectControl n ")"
              if !bash && !isName raw then refuse (.other ["Syntax error: Bad function name"] false)
              lineBreaks n
              return .function (bareText w) (← readFunctionBody fuel)
            | _, _ =>
              readElements n fuel (← here line) (count + 1) declares as [.word raw w] rs bash
        else
          let a ← argument n declares
          readElements n fuel (← here line) (count + 1) declares as (a :: ws) rs bash
      | .newline | .ending => finish
      | .operator op =>
        if op = ['('] then
          if bash || !as.isEmpty then unexpected n none else unexpected n none
        else finish
      | .redirection _ => finish

end

/-- The word that a text is between double quotes; the text itself if it is none. -/
def wordOfText (d : Dialect) (text : Bytes) : Word :=
  let fuel := 2 * text.length + 10
  let source : Source := ⟨d, false, text, 1, text, [], [], 0, []⟩
  match (readParts ⟨readList (8 * fuel)⟩ fuel .document 0).run source with
  | .ok (parts, _) => parts
  | .error _ => [.literal text]

/-- The next line of a script with the lines that belong to it; none at the end. -/
def readCommandLine : Reader (Option Command) := do
  let fuel ← ample
  let n : Nested := ⟨readList (8 * fuel)⟩
  lineBreaks n
  if (← look).isEmpty then return none
  return some (sequenceOf (← items n (8 * fuel) fuel))
where
  /-- The commands up to the end of the line. -/
  items (n : Nested) (depth : Nat) : Nat → Reader (List Command)
    | 0 => pure []
    | fuel + 1 => do
      let c ← readAndOr depth
      let more (c : Command) : Reader (List Command) := do
        blanks
        match ← look with
        | [] => return [c]
        | '\n' :: _ =>
          lineBreak n
          return [c]
        | _ => return c :: (← items n depth fuel)
      match ← nextToken n with
      | .ending => return [c]
      | .newline =>
        lineBreak n
        return [c]
      | .operator [';'] =>
        skip
        more c
      | .operator ['&'] =>
        skip
        more (.background c)
      | _ => unexpected n none

end Provision.Shell
