import Provision.Shell.Tool.Options

/-!
# Programs that pass text on

Programs that write what they read: all of it or a part, in its order or another one, with numbers or
without; and one that counts it.
-/

namespace Provision.Shell.Tool

/-! ## All of it -/

/-- How bytes are shown. -/
structure ShownBytes where
  ends : Bool
  tabs : Bool
  controls : Bool

/-- A byte below 128 as it is shown. -/
def ShownBytes.low (v : ShownBytes) (c : Char) : Bytes :=
  if c = '\t' then if v.tabs then ['^', 'I'] else [c]
  else if c = '\n' then [c]
  else if !v.controls then [c]
  else if c < ' ' then ['^', Char.ofNat (c.toNat + 64)]
  else if c = '\x7f' then ['^', '?']
  else [c]

/-- A byte as it is shown. -/
def ShownBytes.byte (v : ShownBytes) (c : Char) : Bytes :=
  if v.controls && 128 ≤ c.toNat then
    let d := Char.ofNat (c.toNat - 128)
    'M' :: '-' ::
      (if d < ' ' then ['^', Char.ofNat (d.toNat + 64)]
        else if d = '\x7f' then ['^', '?']
        else [d])
  else v.low c

/-- How a text is passed on. -/
structure Passing extends ShownBytes where
  numbers : Bool
  numbersBlank : Bool
  squeezes : Bool

/-- How far a text was passed on: what was written, latest first, the number of the last line,
whether a line begins, and how many blank lines came before. -/
structure Passed where
  written : List Bytes
  line : Nat
  fresh : Bool
  blanks : Nat

/-- Passes one byte on. -/
def Passing.pass (p : Passing) (d : Passed) (c : Char) : Passed :=
  let blank := d.fresh && c = '\n'
  if blank && p.squeezes && 0 < d.blanks then d
  else
    let numbered := d.fresh && p.numbers && (!blank || p.numbersBlank)
    let line := if numbered then d.line + 1 else d.line
    let start := if numbered then padNumber 6 line ++ ['\t'] else []
    let ending := if c = '\n' && p.ends then ['$'] else []
    let written := (start ++ ending ++ p.byte c) :: d.written
    ⟨written, line, c = '\n', if blank then d.blanks + 1 else 0⟩

/-- Shows a line end before which a carriage return stands. -/
def showReturns (ends controls : Bool) : Bytes → Bytes
  | '\r' :: '\n' :: rest =>
    if ends && !controls then '^' :: 'M' :: '\n' :: showReturns ends controls rest
    else '\r' :: '\n' :: showReturns ends controls rest
  | c :: rest => c :: showReturns ends controls rest
  | [] => []

/-- Writes files one after the other. -/
def cat : Tool := fun who args =>
  withWords who 1
    [flag 'b' "number-nonblank", flag 'n' "number", flag 's' "squeeze-blank",
      flag 'v' "show-nonprinting", flag 'E' "show-ends", flag 'T' "show-tabs", flag 'A' "show-all",
      flag 'e' "", flag 't' "", flag 'u' ""] false args fun w => do
    let any (keys : List String) : Bool := keys.any w.has
    let p : Passing :=
      { ends := any ["A", "e", "E"], tabs := any ["A", "t", "T"]
        controls := any ["A", "e", "t", "v"], numbers := any ["b", "n"]
        numbersBlank := !w.has "b", squeezes := w.has "s" }
    let plain := !(p.ends || p.tabs || p.controls || p.numbers || p.squeezes)
    let names := if w.operands.isEmpty then [['-']] else w.operands
    let start ← get
    let closed := (start.stream? 0).isNone
    if (start.stream? 1).isNone then
      complain who ("standard output: " ++ FileFault.badDescriptor.reason)
      leaveShell 1
    let rec go (d : Passed) (fine : Bool) : List Bytes → Act Bool
      | [] => pure fine
      | n :: ns => do
        match ← contentOf n with
        | .error f =>
          complain who (named n ++ ": " ++ f.reason)
          go d false ns
        | .ok bytes =>
          if plain then
            put who bytes
            go d fine ns
          else
            let bytes := if p.ends && !p.controls then showReturns true false bytes else bytes
            let d := bytes.foldl p.pass { d with written := [] }
            put who d.written.reverse.flatten
            go d fine ns
    let fine ← go ⟨[], 0, true, 0⟩ true names
    if closed && names.contains ['-'] then
      fail who 1 ("closing standard input: " ++ FileFault.badDescriptor.reason)
    else ends (statusOf fine)

/-- Writes what it reads, and into files too. -/
def tee : Tool := fun who args =>
  withWords who 1
    [flag 'a' "append", flag 'i' "ignore-interrupts", flag 'p' "",
      longOnly "output-error" .perhaps] false args fun w => do
    let opened ← w.operands.mapM fun n => do
      match ← openToWrite n (w.has "a") false false with
      | .ok stream => return some stream
      | .error f =>
        complain who (named n ++ ": " ++ f.reason)
        return none
    match ← contentOf ['-'] with
    | .error f => fail who 1 ("read error: " ++ f.reason)
    | .ok bytes =>
      (opened.filterMap id).forM fun stream => modify fun s =>
        match s.machine.write stream s.process bytes with
        | .ok machine => { s with machine }
        | .error _ => s
      output who bytes (statusOf (opened.all Option.isSome))

/-! ## In another order -/

/-- The pieces of a text that each start with a separator but for the first one. -/
def startedPieces (sep : Bytes) : Nat → Bytes → Bytes → List Bytes
  | 0, begun, _ => [begun.reverse]
  | _ + 1, begun, [] => [begun.reverse]
  | fuel + 1, begun, c :: rest =>
    if sep.isPrefixOf (c :: rest) && !begun.isEmpty then
      begun.reverse :: startedPieces sep fuel (sep.take 1).reverse rest
    else startedPieces sep fuel (c :: begun) rest

/-- The pieces of a text that a separator ends. -/
def endedPieces (sep : Bytes) : Nat → Bytes → Bytes → List Bytes
  | 0, begun, _ => [begun.reverse]
  | _ + 1, begun, [] => if begun.isEmpty then [] else [begun.reverse]
  | fuel + 1, begun, c :: rest =>
    if sep.isPrefixOf (c :: rest) then
      (sep.reverse ++ begun).reverse ::
        endedPieces sep fuel [] (rest.drop (sep.length - 1))
    else endedPieces sep fuel (c :: begun) rest

/-- Writes the lines of files, the last one first. -/
def tac : Tool := fun who args =>
  withWords who 1 [flag 'b' "before", flag 'r' "regex", valued 's' "separator"] false args
    fun w => do
    let sep := (w.value? "s").getD ['\n']
    let names := if w.operands.isEmpty then [['-']] else w.operands
    let read ← names.mapM fun n => do
      match ← openOperand n with
      | .error f =>
        complain who ("failed to open " ++ quoted n ++ " for reading: " ++ f.reason)
        return false
      | .ok stream =>
        match ← drain stream with
        | .error f =>
          let shownName := if n = ['-'] then "standard input" else named n
          let f := if f = .isDirectory then .invalid else f
          complain who (shownName ++ ": read error: " ++ f.reason)
          return false
        | .ok bytes =>
          let pieces :=
            if sep = ['\n'] && !w.has "b" then rawLines bytes
            else if w.has "b" then startedPieces sep (bytes.length + 1) [] bytes
            else endedPieces sep (bytes.length + 1) [] bytes
          put who pieces.reverse.flatten
          return true
    ends (statusOf (read.all id))

/-- Writes the lines of files, each one backwards. -/
def rev : Tool := fun who args =>
  withWords who 1 [flag 'h' "", flag 'V' "", flag '0' "zero"] false args fun w => do
    let names := if w.operands.isEmpty then [['-']] else w.operands
    let read ← names.mapM fun n => do
      match ← contentOf n with
      | .error f =>
        complain who ("cannot open " ++ shown n ++ ": " ++ f.reason)
        return false
      | .ok bytes =>
        let backwards (line : Bytes) : Bytes :=
          match line.reverse with
          | '\n' :: rest => rest ++ ['\n']
          | line => line
        put who ((rawLines bytes).flatMap backwards)
        return true
    ends (statusOf (read.all id))

/-! ## With numbers -/

/-- Which lines have numbers. -/
def numbersLine (style line : Bytes) : Bool :=
  match style with
  | ['a'] => true
  | ['n'] => false
  | _ => !line.isEmpty

/-- How numbers of lines are written. -/
structure NumberedLines where
  style : Bytes
  format : Bytes
  width : Nat
  separator : Bytes
  step : Int

/-- A number of a line. -/
def NumberedLines.number (l : NumberedLines) (n : Int) : Bytes :=
  let digits := (toString n.natAbs).toList
  let sign : Bytes := if n < 0 then ['-'] else []
  let fill (c : Char) : Bytes := List.replicate (l.width - digits.length - sign.length) c
  match shown l.format with
  | "ln" => sign ++ digits ++ fill ' '
  | "rz" => sign ++ fill '0' ++ digits
  | _ => fill ' ' ++ sign ++ digits

/-- The lines with their numbers from one on, and the next number. -/
def NumberedLines.lines (l : NumberedLines) : Int → List Bytes → List Bytes
  | _, [] => []
  | n, line :: rest =>
    if numbersLine l.style line then
      (l.number n ++ l.separator ++ line ++ ['\n']) :: lines l (n + l.step) rest
    else
      (List.replicate (l.width + l.separator.length) ' ' ++ line ++ ['\n']) :: lines l n rest

/-- Writes lines with numbers. -/
def nl : Tool := fun who args =>
  withWords who 1
    [valued 'b' "body-numbering", valued 'd' "section-delimiter", valued 'f' "footer-numbering",
      valued 'h' "header-numbering", valued 'i' "line-increment", valued 'l' "join-blank-lines",
      valued 'n' "number-format", flag 'p' "no-renumber", valued 's' "number-separator",
      valued 'v' "starting-line-number", valued 'w' "number-width"] false args fun w => do
    let integer (key : String) (default : Int) : Int :=
      match w.value? key with
      | some ('-' :: t) => -((number? t).getD 0 : Nat)
      | some t => ((number? t).getD 0 : Nat)
      | none => default
    let l : NumberedLines :=
      { style := (w.value? "b").getD ['t'], format := (w.value? "n").getD ['r', 'n']
        width := (integer "w" 6).toNat, separator := (w.value? "s").getD ['\t']
        step := integer "i" 1 }
    let (contents, fine) ← contentsOf who w.operands
    output who (l.lines (integer "v" 1) (contents.flatMap linesOf)).flatten (statusOf fine)

/-! ## A part of it -/

/-- Which part of a text is passed on: so many lines or bytes from its start or its end, or all but
so many from the other end. -/
structure Portion where
  lines : Bool
  count : Nat
  fromOther : Bool
  ending : Char

/-- The part of a text at its start. -/
def Portion.head (p : Portion) (t : Bytes) : Bytes :=
  match p.lines, p.fromOther with
  | true, false => ((pieces p.ending true t).take p.count).flatten
  | true, true =>
    let lines := pieces p.ending true t
    (lines.take (lines.length - p.count)).flatten
  | false, false => t.take p.count
  | false, true => t.take (t.length - p.count)

/-- The part of a text at its end. -/
def Portion.tail (p : Portion) (t : Bytes) : Bytes :=
  match p.lines, p.fromOther with
  | true, false =>
    let lines := pieces p.ending true t
    (lines.drop (lines.length - p.count)).flatten
  | true, true => ((pieces p.ending true t).drop (p.count - 1)).flatten
  | false, false => t.drop (t.length - p.count)
  | false, true => t.drop (p.count - 1)

/-- What is written above the content of a file. -/
def heading (isFirst : Bool) (name : Bytes) : Bytes :=
  (if isFirst then [] else ['\n']) ++ "==> ".toList ++
    (if name = ['-'] then "standard input".toList else name) ++ " <==\n".toList

/-- How many bytes are read at once from what is no file. -/
def blockSize : Nat := 8192

/-- The first bytes of a stream that are wanted; the others of what is no file are lost with their
block. -/
def readHead (p : Portion) (stream : Nat) : Act (Except FileFault Bytes) := do
  let s ← get
  if s.machine.isEndless stream && !p.lines && !p.fromOther then
    match s.machine.available stream with
    | .error f => return .error f
    | .ok [] => return .ok []
    | .ok block =>
      return .ok ((List.replicate (p.count / block.length + 1) block).flatten.take p.count)
  else
    match s.machine.available stream with
    | .error f => return .error f
    | .ok bytes =>
      let part := p.head bytes
      let used :=
        match s.machine.streams[stream]? with
        | some (.text _) =>
          if p.lines && !p.fromOther then (part.length + blockSize - 1) / blockSize * blockSize
          else part.length
        | _ => part.length
      let used := if p.fromOther then bytes.length else min used bytes.length
      set { s with machine := s.machine.consume stream used }
      return .ok part

/-- Writes parts of files, with headings if there are several or they are asked for. -/
def writeParts (who : Bytes) (w : Words) (read : Nat → Act (Except FileFault Bytes)) : Act Unit := do
  let names := if w.operands.isEmpty then [['-']] else w.operands
  let headed :=
    match w.last? ["q", "v"] with
    | some "q" => false
    | some _ => true
    | none => names.length > 1
  let rec go (isFirst fine : Bool) : List Bytes → Act Bool
    | [] => pure fine
    | n :: ns => do
      let name := if n = ['-'] then "standard input".toList else n
      match ← openOperand n with
      | .error f =>
        complain who ("cannot open " ++ quoted name ++ " for reading: " ++ f.reason)
        go isFirst false ns
      | .ok stream =>
        if headed then put who (heading isFirst n)
        match ← read stream with
        | .error f =>
          complain who ("error reading " ++ quoted name ++ ": " ++ f.reason)
          go false false ns
        | .ok part =>
          put who part
          go false fine ns
  ends (statusOf (← go true true names))

/-- The options of the programs that write parts of files. -/
def portionForms : List OptionForm :=
  [valued 'c' "bytes", valued 'n' "lines", flag 'q' "quiet", flag 'q' "silent",
    flag 'v' "verbose", flag 'z' "zero-terminated"]

/-- The part that options ask for, told by a sign of its own if it is counted from the other end;
or the words about what is no number. -/
def portionOf (w : Words) (sign : Char) : Except String Portion :=
  let ending := if w.has "z" then '\x00' else '\n'
  match w.options.reverse.find? fun o => o.1 = "n" || o.1 = "c" with
  | none => .ok ⟨true, 10, false, ending⟩
  | some (key, t) =>
    let t := t.getD []
    let other := t.head? = some sign
    let digits := if other || t.head? = some '-' || t.head? = some '+' then t.drop 1 else t
    match size? digits with
    | some n => .ok ⟨key = "n", n, other, ending⟩
    | none =>
      let what := if key = "n" then "lines" else "bytes"
      .error ("invalid number of " ++ what ++ ": " ++ quotedText t)

/-- The words that stand for one that is nothing but a count, with letters that follow it. -/
def countWords (sign : Bytes) (letters : Bytes) (digits : Bytes) : List Bytes :=
  let scale := (letters.filter fun c => c = 'b' || c = 'k' || c = 'm').reverse.take 1
  let bytes := letters.contains 'c' || !scale.isEmpty
  let others := letters.filter fun c => c = 'q' || c = 'v' || c = 'z'
  [(if bytes then ['-', 'c'] else ['-', 'n']) ++ sign ++ digits ++ scale] ++
    others.map fun c => ['-', c]

/-- Writes the first parts of files. -/
def head : Tool := fun who args =>
  let body (args : List Bytes) : Act Unit :=
    withWords who 1 portionForms false args fun w => do
      match portionOf w '-' with
      | .error e => fail who 1 e
      | .ok p => writeParts who w (readHead p)
  match args with
  | ('-' :: c :: cs) :: rest =>
    let digits := (c :: cs).takeWhile Char.isDigit
    let letters := (c :: cs).drop digits.length
    if digits.isEmpty then body args
    else
      match letters.find? fun c => !"bkmclqvz".toList.contains c with
      | some c => misused who 1 ("invalid trailing option -- " ++ String.singleton c)
      | none => body (countWords [] letters digits ++ rest)
  | _ => body args

/-- Whether letters may stand behind a count of `tail`. -/
def isTailCount (letters : Bytes) : Bool :=
  let rest := match letters with
    | c :: rest => if c = 'b' || c = 'c' || c = 'l' then rest else letters
    | [] => []
  rest.isEmpty || rest = ['f']

/-- Writes the last parts of files. -/
def tail : Tool := fun who args =>
  let single := args.length = 1 || args.length = 2 &&
    (args.drop 1).all fun w => w.head? ≠ some '-' || w = ['-']
  let args :=
    match args with
    | (sign :: c :: cs) :: rest =>
      let digits := (c :: cs).takeWhile Char.isDigit
      let letters := (c :: cs).drop digits.length
      if single && c.isDigit && (sign = '-' || sign = '+') && isTailCount letters then
        countWords (if sign = '+' then ['+'] else []) letters digits ++
          (if letters.contains 'f' then [['-', 'f']] else []) ++ rest
      else args
    | _ => args
  let forms := portionForms ++
    [flag 'f' "", longOnly "follow" .perhaps, flag 'F' "", longOnly "pid" .argument,
      longOnly "retry" .nothing, valued 's' "sleep-interval"]
  let digit? (w : Bytes) : Option Char :=
    match w with
    | '-' :: c :: _ => if c.isDigit then some c else none
    | _ => none
  match (args.takeWhile (· ≠ ['-', '-'])).findSome? digit? with
  | some c => fail who 1 ("option used in invalid context -- " ++ String.singleton c)
  | none =>
    withWords who 1 forms false args fun w => do
      match portionOf w '+' with
      | .error e => fail who 1 e
      | .ok p =>
        writeParts who w fun stream => do
          match ← drain stream with
          | .ok t => return .ok (p.tail t)
          | .error f => return .error f
        if w.has "f" || w.has "F" || w.has "follow" then throw .stuck

/-! ## How much it is -/

/-- What is counted of a text. -/
structure Tally where
  lines : Nat
  words : Nat
  bytes : Nat
  longest : Nat

/-- Where a count has come to. -/
structure Counting extends Tally where
  inWord : Bool
  width : Nat

/-- Counts one byte more. -/
def Counting.count (n : Counting) (c : Char) : Counting :=
  let n := { n with bytes := n.bytes + 1 }
  let ended (n : Counting) : Counting :=
    { n with longest := max n.longest n.width, width := 0, inWord := false }
  if c = '\n' then ended { n with lines := n.lines + 1 }
  else if c = '\r' || c = '\x0c' then ended n
  else if c = '\t' then { n with width := (n.width / 8 + 1) * 8, inWord := false }
  else if c = ' ' then { n with width := n.width + 1, inWord := false }
  else if c = '\x0b' then { n with inWord := false }
  else
    if ' ' ≤ c && c ≤ '~' then
      let words := if n.inWord then n.words else n.words + 1
      { n with words, inWord := true, width := n.width + 1 }
    else n

/-- What is counted of a text. -/
def Tally.ofText (t : Bytes) : Tally :=
  let n := t.foldl Counting.count ⟨⟨0, 0, 0, 0⟩, false, 0⟩
  { n.toTally with longest := max n.longest n.width }

/-- What is counted of two texts. -/
def Tally.add (a b : Tally) : Tally :=
  ⟨a.lines + b.lines, a.words + b.words, a.bytes + b.bytes, max a.longest b.longest⟩

/-- The size of what an operand of `wc` leads to, if it is a file; none if it is something else. -/
def regularSize (name : Option Bytes) : Act (Option (Option Nat)) := do
  let s ← get
  let ofStream (stream : Nat) : Option Nat :=
    match s.machine.streams[stream]? with
    | some (.file node ..) => (s.machine.nodes[node]?).map Node.size
    | _ => none
  match name with
  | none | some ['-'] => return (s.stream? 0).map ofStream
  | some path =>
    match s.find path with
    | .ok (.file (.regular node)) => return some ((s.machine.nodes[node]?).map Node.size)
    | .ok _ => return some none
    | .error _ => return none

/-- How wide the counts are written. -/
def countWidth (sizes : List (Option (Option Nat))) : Nat :=
  let known := sizes.filterMap id
  let total := (known.filterMap id).foldl (· + ·) 0
  let digits := (toString total).length
  if known.any Option.isNone then max digits 7 else digits

/-- Counts lines, words and bytes. -/
def wc : Tool := fun who args =>
  withWords who 1
    [flag 'c' "bytes", flag 'm' "chars", flag 'l' "lines", flag 'L' "max-line-length",
      flag 'w' "words", longOnly "files0-from" .argument, longOnly "total" .argument] false args
    fun w => do
    let asked := ["l", "w", "m", "c", "L"].filter w.has
    let asked := if asked.isEmpty then ["l", "w", "c"] else asked
    let names : List (Option Bytes) := if w.operands.isEmpty then [none] else w.operands.map some
    let tellsTotal := (w.value? "total").map shown
    let sizes ← names.mapM regularSize
    let width :=
      if tellsTotal = some "only" || names.length = 1 && asked.length = 1 then 1 else countWidth sizes
    let line (t : Tally) (name : Option Bytes) : Bytes :=
      let numbers := asked.map fun key =>
        padNumber width (match key with
          | "l" => t.lines
          | "w" => t.words
          | "L" => t.longest
          | _ => t.bytes)
      [' '].intercalate numbers ++ (match name with
        | some n => ' ' :: n
        | none => []) ++ ['\n']
    let only := tellsTotal = some "only"
    let rec go (total : Tally) (fine : Bool) : List (Option Bytes) → Act (Tally × Bool)
      | [] => pure (total, fine)
      | some [] :: ns => do
        complain who "invalid zero-length file name"
        go total false ns
      | n :: ns => do
        match ← openOperand (n.getD ['-']) with
        | .error f =>
          complain who (named (n.getD ['-']) ++ ": " ++ f.reason)
          go total false ns
        | .ok stream =>
          match ← drain stream with
          | .error f =>
            complain who (named (n.getD ['-']) ++ ": " ++ f.reason)
            if !only then put who (line ⟨0, 0, 0, 0⟩ n)
            go total false ns
          | .ok t =>
            let tally := Tally.ofText t
            if !only then put who (line tally n)
            go (total.add tally) fine ns
    let (total, fine) ← go ⟨0, 0, 0, 0⟩ true names
    let tells :=
      match tellsTotal with
      | some "always" | some "only" => true
      | some "never" => false
      | _ => names.length > 1
    if tells then put who (line total (if only then none else some "total".toList))
    ends (statusOf fine)

end Provision.Shell.Tool
