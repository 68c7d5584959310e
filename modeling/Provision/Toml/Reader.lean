import Provision.Toml.Assembly

/-!
# Reading Toml

`Toml.parse` reads the table of a document. A document is a list of lines: headers, assignments and
comments. A value stands on one line, apart from arrays and from strings between triple quotes.
-/

namespace Provision.Toml

/-- A reader takes characters from a cursor and may refuse them. -/
abbrev Reader := StateT Cursor Option

/-- The next character. -/
def peek : Reader (Option Char) := fun c => some (c.rest.head?, c)

/-- The place reached. -/
def place : Reader Nat := fun c => some (c.pos, c)

/-- Past the next character. -/
def skip : Reader Unit := fun c => some ((), c.next)

/-- Refuses. -/
def refuse : Reader α := fun _ => none

/-- Past the characters of a text. -/
def literal : List Char → Reader Unit
  | [] => pure ()
  | x :: xs => do
    if (← peek) = some x then
      skip
      literal xs
    else refuse

/-- Whether the next characters are those of a text. -/
def startsWith (cs : List Char) : Reader Bool := fun c => some (cs.isPrefixOf c.rest, c)

/-- The characters with a property that come next. -/
def takeWhile (p : Char → Bool) : Reader (List Char) := fun c =>
  let taken := c.rest.takeWhile p
  some (taken, ⟨c.rest.drop taken.length, c.pos + (taken.map Char.utf8Size).foldl (· + ·) 0⟩)

/-- What is read, with its place. -/
def spanned (r : Reader α) : Reader (Span × α) := do
  let start ← place
  let a ← r
  let stop ← place
  pure (⟨start, stop⟩, a)

/-- Whether a character is blank within a line. -/
def isBlank (c : Char) : Bool := c = ' ' || c = '\t'

/-- Past blanks within a line. -/
def blanks : Reader Unit := do
  let _ ← takeWhile isBlank

/-- Whether a character may stand in a comment. -/
def isCommentChar (c : Char) : Bool := c = '\t' || (0x20 ≤ c.toNat && c.toNat ≠ 0x7F)

/-- Past a comment, if there is one. -/
def comment : Reader Unit := do
  if (← peek) = some '#' then
    let _ ← takeWhile isCommentChar

/-- Past a line break. -/
def newline : Reader Unit := do
  if ← startsWith ['\r', '\n'] then literal ['\r', '\n'] else literal ['\n']

/-- Whether a line break or the end of the text comes next. -/
def atLineEnd : Reader Bool := do
  let next ← peek
  pure (next = none || next = some '\n' || (← startsWith ['\r', '\n']))

/-- Past the rest of a line on which nothing more is said. -/
def lineEnd : Reader Unit := do
  blanks
  comment
  if (← peek).isSome then newline

/-- Past blanks, comments and line breaks; `fuel` bounds the number of lines. -/
def blankLines : Nat → Reader Unit
  | 0 => pure ()
  | fuel + 1 => do
    blanks
    comment
    if (← peek).isSome && (← atLineEnd) then
      newline
      blankLines fuel

/-- The number of characters left. -/
def remaining : Reader Nat := fun c => some (c.rest.length, c)

/-- Past blanks, comments and line breaks. -/
def blankSpace : Reader Unit := do blankLines ((← remaining) + 1)

/-! ## Strings -/

/-- The character of a number of digits in base sixteen. -/
def scalarValue (count : Nat) : Reader Char := do
  let digits ← fun c => some (c.rest.take count, (c.rest.take count).foldl (fun c _ => c.next) c)
  match digits.mapM (digit? 16) with
  | some ds =>
    let n := ofDigits 16 ds
    if ds.length = count && (n < 0xD800 || (0xE000 ≤ n && n < 0x110000)) then
      pure (Char.ofNat n)
    else refuse
  | none => refuse

/-- The character of an escape, after the backslash. -/
def escape : Reader Char := do
  let next ← peek
  skip
  match next with
  | some 'b' => pure '\x08'
  | some 't' => pure '\t'
  | some 'n' => pure '\n'
  | some 'f' => pure '\x0c'
  | some 'r' => pure '\r'
  | some '"' => pure '"'
  | some '\\' => pure '\\'
  | some 'u' => scalarValue 4
  | some 'U' => scalarValue 8
  | _ => refuse

/-- The characters of a string up to its closing quote. A string that is literal has no escapes. -/
def lineString (quote : Char) (isLiteral : Bool) : Nat → Reader (List Char)
  | 0 => refuse
  | fuel + 1 => do
    match ← peek with
    | none => refuse
    | some c =>
      skip
      if c = quote then pure []
      else if c = '\\' && !isLiteral then
        let x ← escape
        let xs ← lineString quote isLiteral fuel
        pure (x :: xs)
      else if isCommentChar c then
        let xs ← lineString quote isLiteral fuel
        pure (c :: xs)
      else refuse

/-- Past blanks and line breaks after a backslash at the end of a line. -/
def joinLines : Nat → Reader Unit
  | 0 => pure ()
  | fuel + 1 => do
    blanks
    if (← peek).isSome && (← atLineEnd) then
      newline
      joinLines fuel

/-- Whether only blanks are left on the line. -/
def onlyBlanksLeft : Reader Bool := fun c =>
  match c.rest.dropWhile isBlank with
  | '\n' :: _ | '\r' :: '\n' :: _ => some (true, c)
  | _ => some (false, c)

/-- The characters of a string up to its closing three quotes, before which there may be one or two
quotes more. Every line break reads as one character. -/
def longString (quote : Char) (isLiteral : Bool) : Nat → Reader (List Char)
  | 0 => refuse
  | fuel + 1 => do
    match ← peek with
    | none => refuse
    | some c =>
      if ← startsWith [quote, quote, quote] then
        let quotes ← takeWhile (· = quote)
        if quotes.length ≤ 5 then pure (List.replicate (quotes.length - 3) quote) else refuse
      else if ← atLineEnd then
        newline
        let xs ← longString quote isLiteral fuel
        pure ('\n' :: xs)
      else
        skip
        if c = '\\' && !isLiteral then
          if ← onlyBlanksLeft then
            joinLines ((← remaining) + 1)
            longString quote isLiteral fuel
          else
            let x ← escape
            let xs ← longString quote isLiteral fuel
            pure (x :: xs)
        else if isCommentChar c then
          let xs ← longString quote isLiteral fuel
          pure (c :: xs)
        else refuse

/-- A string on one line, from its opening quote. -/
def shortString : Reader String := do
  let quote ← peek
  skip
  let fuel ← remaining
  match quote with
  | some '"' => String.ofList <$> lineString '"' false fuel
  | some '\'' => String.ofList <$> lineString '\'' true fuel
  | _ => refuse

/-- A string, from its opening quote or quotes. -/
def readString : Reader String := do
  let long (quote : Char) : Reader String := do
    literal [quote, quote, quote]
    if (← peek).isSome && (← atLineEnd) then newline
    String.ofList <$> longString quote (quote = '\'') ((← remaining) + 1)
  if ← startsWith ['"', '"', '"'] then long '"'
  else if ← startsWith ['\'', '\'', '\''] then long '\''
  else shortString

/-! ## Keys -/

/-- Whether a character may stand in a key without quotes. -/
def isBare (c : Char) : Bool := c.isAlphanum || c = '-' || c = '_'

/-- One name of a key. -/
def simpleKey : Reader Key := do
  let next ← peek
  let (span, name) ← spanned do
    if next = some '"' || next = some '\'' then shortString
    else
      let cs ← takeWhile isBare
      if cs.isEmpty then refuse else pure (String.ofList cs)
  pure ⟨span, name⟩

/-- The names of a dotted key after the first one. -/
def moreKeys : Nat → Reader (List Key)
  | 0 => refuse
  | fuel + 1 => do
    blanks
    if (← peek) = some '.' then
      skip
      blanks
      let k ← simpleKey
      let ks ← moreKeys fuel
      pure (k :: ks)
    else pure []

/-- How deep values and names may nest. -/
def nesting : Nat := 80

/-- A dotted key: the names before the last one, and the last one. -/
def dottedKey : Reader (List Key × Key) := do
  blanks
  let first ← simpleKey
  let others ← moreKeys ((← remaining) + 1)
  let keys := first :: others
  if nesting ≤ keys.length then refuse
  else pure (keys.dropLast, keys.getLast (by simp [keys]))

/-! ## Values -/

/-- Whether a character may stand in a word that is a value. -/
def isWordChar (c : Char) : Bool := c.isAlphanum || c = '_' || c = '+' || c = '-' || c = '.' || c = ':'

/-- A word; a blank between a date and a time is part of it. -/
def word : Reader (List Char) := do
  let first ← takeWhile isWordChar
  let hasTime : Bool ← fun c =>
    match c.rest with
    | ' ' :: d :: _ => some (d.isDigit, c)
    | _ => some (false, c)
  if date? first = some [] && hasTime then
    skip
    let second ← takeWhile isWordChar
    pure (first ++ ' ' :: second)
  else pure first

/-- A value that is a word. -/
def readScalar : Reader Scalar := do
  match scalar? (← word) with
  | some s => pure s
  | none => refuse

/-- The items of an array after its opening bracket, each read by `value`. -/
def items (value : Reader Value) : Nat → Reader (List Value)
  | 0 => refuse
  | fuel + 1 => do
    blankSpace
    if (← peek) = some ']' then
      skip
      pure []
    else
      let v ← value
      blankSpace
      match ← peek with
      | some ',' =>
        skip
        let vs ← items value fuel
        pure (v :: vs)
      | some ']' =>
        skip
        pure [v]
      | _ => refuse

/-- An assignment, whose value is read by `value`. -/
def assignment (value : Reader Value) : Reader Assignment := do
  let (path, key) ← dottedKey
  blanks
  literal ['=']
  blanks
  let v ← value
  blanks
  pure ⟨path, key, v⟩

/-- The assignments between braces after the first one. -/
def moreAssignments (value : Reader Value) : Nat → Reader (List Assignment)
  | 0 => refuse
  | fuel + 1 => do
    match ← peek with
    | some ',' =>
      skip
      let a ← assignment value
      let rest ← moreAssignments value fuel
      pure (a :: rest)
    | some '}' =>
      skip
      pure []
    | _ => refuse

/-- The assignments between braces, after the opening one. -/
def assignments (value : Reader Value) : Reader (List Assignment) := do
  blanks
  if (← peek) = some '}' then
    skip
    pure []
  else
    let a ← assignment value
    let rest ← moreAssignments value ((← remaining) + 1)
    pure (a :: rest)

/-- A value, when `nested` reads what stands between brackets or braces; without `nested` none may be
opened any more. -/
def valueWith (nested : Option (Reader Value)) : Reader Value := do
  match ← peek, nested with
  | some '"', _ | some '\'', _ =>
    let (span, s) ← spanned readString
    pure (.string span s)
  | some '[', some value =>
    let (span, vs) ← spanned do
      skip
      items value ((← remaining) + 1)
    pure (.array span vs)
  | some '{', some value =>
    let (span, as) ← spanned do
      skip
      assignments value
    match braces span as with
    | some v => pure v
    | none => refuse
  | _, _ =>
    let (span, s) ← spanned readScalar
    pure (.scalar span s)

/-- A value that may open `depth` brackets one inside the other. -/
def value : Nat → Reader Value
  | 0 => valueWith none
  | depth + 1 => valueWith (some (value depth))

/-! ## Lines -/

/-- What a line says. -/
inductive Line where
  | empty
  | header (h : Header)
  | assignment (a : Assignment)

/-- A header, from its opening bracket. -/
def header : Reader Header := do
  let isItem ← startsWith ['[', '[']
  let (span, (path, key)) ← spanned do
    literal (if isItem then ['[', '['] else ['['])
    let k ← dottedKey
    blanks
    literal (if isItem then [']', ']'] else [']'])
    pure k
  pure (if isItem then .item span path key else .single span path key)

/-- A line, with the line break after it. -/
def line : Reader Line := do
  blanks
  let l ←
    match ← peek with
    | some '[' => Line.header <$> header
    | next =>
      if next = some '#' || (← atLineEnd) then pure .empty
      else Line.assignment <$> assignment (value (nesting - 1))
  lineEnd
  pure l

/-- The lines of a text. -/
def lines : Nat → Reader (List Line)
  | 0 => pure []
  | fuel + 1 => do
    if (← peek).isNone then pure []
    else
      let l ← line
      let ls ← lines fuel
      pure (l :: ls)

/-- The lines after a header as the sections of a document: the assignments under that header, and
the sections after it. -/
def gather : List Line → List Assignment × List Section
  | [] => ([], [])
  | .empty :: rest => gather rest
  | .assignment a :: rest =>
    let (as, ss) := gather rest
    (a :: as, ss)
  | .header h :: rest =>
    let (as, ss) := gather rest
    ([], ⟨h, as⟩ :: ss)

/-- The sections of a document. -/
def sections (ls : List Line) : List Section :=
  let (as, ss) := gather ls
  ⟨.root, as⟩ :: ss

/-- The start of a text, after a byte order mark if there is one. -/
def start (text : String) : Cursor :=
  let c := Cursor.ofString text
  if c.rest.head? = some '\uFEFF' then c.next else c

/-- The table of a document. -/
def parse (text : String) : Option Value := do
  let c := start text
  let (ls, _) ← lines (c.rest.length + 1) c
  assemble (sections ls)

end Provision.Toml
