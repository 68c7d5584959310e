import Provision.Shell.Tool.Options

/-!
# Programs about columns

Parts of lines by the places of their bytes or fields, lines side by side, and lines of a width.
-/

namespace Provision.Shell.Tool

/-! ## Parts of lines -/

/-- A range of places, counted from one; it may have no end. -/
structure PlaceRange where
  first : Nat
  last : Option Nat

/-- Whether a place is in a range. -/
def PlaceRange.has (r : PlaceRange) (n : Nat) : Bool :=
  r.first ≤ n && r.last.all fun last => n ≤ last

/-- What is selected of a line. -/
inductive Selected where
  | bytes
  | fields
  deriving DecidableEq

/-- What a place is called. -/
def Selected.noun : Selected → String
  | .bytes => "byte/character position"
  | .fields => "field value"

/-- What a range of places is called. -/
def Selected.rangeNoun : Selected → String
  | .bytes => "byte or character range"
  | .fields => "field range"

/-- What is said of the place zero. -/
def Selected.fromOne : Selected → String
  | .bytes => "byte/character positions are numbered from 1"
  | .fields => "fields are numbered from 1"

/-- The range that a text describes, or what is wrong with it. -/
def placeRange (s : Selected) (t : Bytes) : Except String PlaceRange := do
  let value (t : Bytes) : Except String Nat :=
    match number? t with
    | some n => .ok n
    | none => .error ("invalid " ++ s.noun ++ " " ++ quotedText t)
  if t.isEmpty then .error s.fromOne
  else if t.contains '-' then
    let first := t.takeWhile (· ≠ '-')
    let last := t.drop (first.length + 1)
    if last.contains '-' then .error ("invalid " ++ s.rangeNoun)
    else if first.isEmpty && last.isEmpty then
      .error "invalid range with no endpoint: -"
    else
      let m ← if first.isEmpty then .ok 1 else value first
      if m = 0 then .error s.fromOne
      if last.isEmpty then return ⟨m, none⟩
      else
        let n ← value last
        if n < m then .error "invalid decreasing range" else return ⟨m, some n⟩
  else
    let n ← value t
    if n = 0 then .error s.fromOne else return ⟨n, some n⟩

/-- The ranges of a list. -/
def placeRanges (s : Selected) (t : Bytes) : Except String (List PlaceRange) :=
  let separated := t.map fun c => if c = ' ' || c = '\t' then ',' else c
  (pieces ',' false (separated ++ [','])).mapM (placeRange s)

/-- Pieces with the places that they have, put together again with something between those that are
not next to each other. -/
def selectedRuns (chosen : Nat → Bool) : Nat → List Bytes → List (List Bytes)
  | _, [] => []
  | n, t :: ts =>
    let rest := selectedRuns chosen (n + 1) ts
    if chosen n then
      match ts, rest with
      | _ :: _, run :: others => if chosen (n + 1) then (t :: run) :: others else [t] :: rest
      | _, rest => [t] :: rest
    else rest

/-- Writes parts of lines. -/
def cut : Tool := fun who args =>
  withWords who 1
    [valued 'b' "bytes", valued 'c' "characters", valued 'd' "delimiter", valued 'f' "fields",
      flag 'n' "", flag 's' "only-delimited", longOnly "complement" .nothing,
      longOnly "output-delimiter" .argument, flag 'z' "zero-terminated"] false args fun w => do
    let lists := w.options.filterMap fun o =>
      match o.1, o.2 with
      | "b", some t | "c", some t => some (Selected.bytes, t)
      | "f", some t => some (Selected.fields, t)
      | _, _ => none
    match lists, w.value? "d" with
    | [], _ => misused who 1 "you must specify a list of bytes, characters, or fields"
    | _ :: _ :: _, _ => misused who 1 "only one list may be specified"
    | [(s, list)], d =>
      let plain : Bool := s = .bytes
      if d.any fun t => t.length > 1 then misused who 1 "the delimiter must be a single character"
      else if plain && d.isSome then
        misused who 1 "an input delimiter may be specified only when operating on fields"
      else if plain && w.has "s" then
        misused who 1
          "suppressing non-delimited lines makes sense\n\tonly when operating on fields"
      else
        match placeRanges s list with
        | .error e => misused who 1 e
        | .ok ranges =>
          let chosen (n : Nat) : Bool := ranges.any (·.has n) != w.has "complement"
          let ending := if w.has "z" then '\x00' else '\n'
          let sep := (d.bind List.head?).getD (if d.isSome then '\x00' else '\t')
          let line (t : Bytes) : Bytes :=
            match s with
            | .bytes =>
              match w.value? "output-delimiter" with
              | none =>
                (t.zipIdx.filterMap fun (c, i) => if chosen (i + 1) then some c else none) ++ [ending]
              | some between =>
                let runs := selectedRuns chosen 1 (t.map fun c => [c])
                between.intercalate (runs.map List.flatten) ++ [ending]
            | .fields =>
              if !t.contains sep then if w.has "s" then [] else t ++ [ending]
              else
                let fields := pieces sep false (t ++ [sep])
                let kept := fields.zipIdx.filterMap fun (f, i) =>
                  if chosen (i + 1) then some f else none
                ((w.value? "output-delimiter").getD [sep]).intercalate kept ++ [ending]
          let fine ← forContents who w.operands fun _ t =>
            put who ((pieces ending false t).flatMap line)
          ends (statusOf fine)

/-! ## Lines side by side -/

/-- The bytes that stand between columns; an empty one stands for none. -/
def delimitersOf : Bytes → List Bytes
  | '\\' :: c :: rest =>
    (match c with
      | 'n' => ['\n']
      | 't' => ['\t']
      | '0' => []
      | 'b' => ['\x08']
      | 'f' => ['\x0c']
      | 'r' => ['\r']
      | 'v' => ['\x0b']
      | c => [c]) :: delimitersOf rest
  | c :: rest => [c] :: delimitersOf rest
  | [] => []

/-- The texts with delimiters in turn between them. -/
def inTurn (delimiters : List Bytes) : Nat → List Bytes → Bytes
  | _, [] => []
  | _, [t] => t
  | n, t :: ts =>
    t ++ ((delimiters[n % delimiters.length]?).getD []) ++ inTurn delimiters (n + 1) ts

/-- The rows of columns, as many as the longest one has. -/
def rowsOf (columns : List (List Bytes)) : List (List Bytes) :=
  let most := columns.foldl (fun n c => max n c.length) 0
  let arrays := columns.map List.toArray
  (List.range most).map fun i => arrays.map fun column => (column[i]?).getD []

/-- Lines shared out among columns that read the same input in turn. -/
def dealt (n : Nat) (lines : List Bytes) : List (List Bytes) :=
  (List.range n).map fun k =>
    lines.zipIdx.filterMap fun (l, i) => if i % n = k then some l else none

/-- Writes lines of files side by side. -/
def paste : Tool := fun who args =>
  withWords who 1 [valued 'd' "delimiters", flag 's' "serial", flag 'z' "zero-terminated"] false args
    fun w => do
    let ending := if w.has "z" then '\x00' else '\n'
    let spec := (w.value? "d").getD ['\t']
    if spec.reverse.takeWhile (· = '\\') |>.length |> (· % 2 = 1) then
      fail who 1 ("delimiter list ends with an unescaped backslash: " ++ shown spec)
    else
      let delimiters := delimitersOf spec
      let delimiters := if delimiters.isEmpty then [[]] else delimiters
      let names := if w.operands.isEmpty then [['-']] else w.operands
      if w.has "s" then
        let fine ← forContents who names fun _ t =>
          put who (inTurn delimiters 0 (pieces ending false t) ++ [ending])
        ends (statusOf fine)
      else
        let dashes := names.countP (· = ['-'])
        let input ←
          if dashes = 0 then pure []
          else do
            match ← contentOf ['-'] with
            | .ok t => pure (pieces ending false t)
            | .error f =>
              complain who ("-: " ++ f.reason)
              leaveShell 1
        let shares := dealt dashes input
        let rec columns (used : Nat) : List Bytes → Act (List (List Bytes))
          | [] => return []
          | n :: ns => do
            if n = ['-'] then return (shares[used]?).getD [] :: (← columns (used + 1) ns)
            else
              match ← contentOf n with
              | .ok t => return pieces ending false t :: (← columns used ns)
              | .error f =>
                complain who (named n ++ ": " ++ f.reason)
                leaveShell 1
        let rows := rowsOf (← columns 0 names)
        output who (rows.flatMap fun row => inTurn delimiters 0 row ++ [ending]) 0

/-! ## Lines of a width -/

/-- The column behind a byte. -/
def columnAfter (bytes : Bool) (column : Nat) (c : Char) : Nat :=
  if bytes then column + 1
  else if c = '\x08' then column - 1
  else if c = '\r' then 0
  else if c = '\t' then (column / 8 + 1) * 8
  else column + 1

/-- A line broken where it is wider than so many columns, at blanks if `atBlanks`; `begun` is the
part that was not written yet, latest byte first. -/
def broken (bytes atBlanks : Bool) (width : Nat) : Nat → Bytes → Nat → Bytes → Bytes
  | 0, begun, _, _ => begun.reverse
  | _ + 1, begun, _, [] => begun.reverse
  | fuel + 1, begun, column, c :: rest =>
    let next := columnAfter bytes column c
    if next ≤ width || begun.isEmpty then broken bytes atBlanks width fuel (c :: begun) next rest
    else
      let tail := if atBlanks then begun.takeWhile fun c => c ≠ ' ' && c ≠ '\t' else []
      if atBlanks && tail.length < begun.length then
        let kept := tail.reverse
        (begun.drop tail.length).reverse ++ '\n' ::
          broken bytes atBlanks width fuel tail (kept.foldl (columnAfter bytes) 0) (c :: rest)
      else begun.reverse ++ '\n' :: broken bytes atBlanks width fuel [] 0 (c :: rest)

/-- Breaks lines that are too wide. -/
def fold : Tool := fun who args =>
  let args :=
    match args with
    | ('-' :: c :: cs) :: rest =>
      if c.isDigit && cs.all Char.isDigit then ('-' :: 'w' :: c :: cs) :: rest else args
    | _ => args
  withWords who 1 [flag 'b' "bytes", flag 's' "spaces", valued 'w' "width"] false args fun w => do
    let text := (w.value? "w").getD ['8', '0']
    match number? text with
    | none => fail who 1 ("invalid number of columns: " ++ quotedText text)
    | some 0 =>
      fail who 1 ("invalid number of columns: " ++ quotedText text ++
        ": Numerical result out of range")
    | some width =>
      let fine ← forContents who w.operands fun _ t =>
        put who ((rawLines t).flatMap fun line =>
          let body := line.filter (· ≠ '\n')
          broken (w.has "b") (w.has "s") width (2 * body.length + 2) [] 0 body ++
            (if line.getLast? = some '\n' then ['\n'] else []))
      ends (statusOf fine)

/-- The next of some places where columns start, behind a column. -/
def nextStop (stops : List Nat) (column : Nat) : Nat :=
  match stops with
  | [n] => (column / n + 1) * n
  | stops => (stops.find? (column < ·)).getD (column + 1)

/-- A line with blanks in place of what goes to the next column. -/
def expanded (stops : List Nat) (initial : Bool) : Nat → Bool → Bytes → Bytes
  | _, _, [] => []
  | column, leading, c :: rest =>
    if c = '\t' && (leading || !initial) then
      let next := nextStop stops column
      List.replicate (next - column) ' ' ++ expanded stops initial next leading rest
    else if c = '\n' then c :: expanded stops initial 0 true rest
    else if c = '\x08' then c :: expanded stops initial (column - 1) leading rest
    else c :: expanded stops initial (column + 1) (leading && c = ' ') rest

/-- The places where columns start. -/
def stopsOf (t : Bytes) : Option (List Nat) :=
  let ns := (pieces ',' false ((t.map fun c => if c = ' ' then ',' else c) ++ [','])).mapM number?
  ns.bind fun ns => if ns.any (· = 0) then none else some ns

/-- Runs something with the places where columns start. -/
def withStops (who : Bytes) (w : Words) (body : List Nat → Act Unit) : Act Unit := do
  let text := (w.value? "t").getD ['8']
  match stopsOf text with
  | some stops => body stops
  | none =>
    if text = ['0'] then fail who 1 "tab size cannot be 0"
    else fail who 1 ("tab size contains invalid character(s): " ++ quotedText text)

/-- Writes blanks in place of what goes to the next column. -/
def expand : Tool := fun who args =>
  withWords who 1 [flag 'i' "initial", valued 't' "tabs"] false args fun w =>
    withStops who w fun stops => do
      let fine ← forContents who w.operands fun _ t =>
        put who (expanded stops (w.has "i") 0 true t)
      ends (statusOf fine)

/-- A line in which blanks that go to a place where a column starts are one byte; `held` are blanks
that were not written yet. -/
def unexpanded (stops : List Nat) (everywhere : Bool) : Nat → Nat → Bool → Bytes → Bytes
  | _, held, _, [] => List.replicate held ' '
  | column, held, leading, c :: rest =>
    if (leading || everywhere) && (c = ' ' || c = '\t') then
      let next := if c = '\t' then nextStop stops column else column + 1
      if next = nextStop stops (next - 1) && (c = '\t' || 0 < held) then
        '\t' :: unexpanded stops everywhere next 0 leading rest
      else unexpanded stops everywhere next (held + (next - column)) leading rest
    else
      List.replicate held ' ' ++ c ::
        (if c = '\n' then unexpanded stops everywhere 0 0 true rest
          else unexpanded stops everywhere (column + 1) 0 false rest)

/-- Writes one byte in place of blanks that go to the next column. -/
def unexpand : Tool := fun who args =>
  withWords who 1 [flag 'a' "all", longOnly "first-only" .nothing, valued 't' "tabs"] false args
    fun w => withStops who w fun stops => do
      let everywhere := (w.has "a" || w.has "t") && !w.has "first-only"
      let fine ← forContents who w.operands fun _ t =>
        put who (unexpanded stops everywhere 0 0 true t)
      ends (statusOf fine)

end Provision.Shell.Tool
