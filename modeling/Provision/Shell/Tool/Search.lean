import Provision.Shell.Tool.Directory

/-!
# Lines that match

`grep` writes the lines of files in which a pattern is found, or what is found in them.
-/

namespace Provision.Shell.Tool

/-- How patterns are written. -/
inductive PatternStyle where
  | basic
  | extended
  | fixed
  | perl
  deriving DecidableEq

/-- What is said of a text that is no pattern. -/
def patternFault (t : Bytes) (f : RegexFault) : String :=
  match f with
  | .unmatchedBracket =>
    if t.getLast? = some '[' || t.length > 1 && t.drop (t.length - 2) = ['[', '^'] then
      "Invalid regular expression"
    else f.message
  | f => f.message

/-- Whether a text has a class of characters without the brackets around it. -/
def hasBareClass : Bytes → Bool
  | '[' :: ':' :: rest =>
    let name := rest.takeWhile Char.isAlpha
    !name.isEmpty && (rest.drop name.length).take 2 = [':', ']']
  | '[' :: rest =>
    let inside := rest.takeWhile (· ≠ ']')
    if inside.contains '[' then false else hasBareClass (rest.drop inside.length)
  | '\\' :: _ :: rest => hasBareClass rest
  | _ :: rest => hasBareClass rest
  | [] => false
termination_by t => t.length
decreasing_by all_goals (simp; try omega)

/-- The first operator of repetition that has nothing to repeat. -/
def startingRepetition? : Bool → Bytes → Option String
  | true, '*' :: _ => some "*"
  | true, '+' :: _ => some "+"
  | true, '?' :: _ => some "?"
  | true, '\x7b' :: c :: rest =>
    if c.isDigit && rest.contains '\x7d' then some "\x7b...\x7d"
    else startingRepetition? false (c :: rest)
  | _, '\\' :: _ :: rest => startingRepetition? false rest
  | _, '(' :: rest => startingRepetition? true rest
  | _, '|' :: rest => startingRepetition? true rest
  | start, '^' :: rest => startingRepetition? start rest
  | _, '[' :: rest => startingRepetition? false ((rest.drop 1).dropWhile (· ≠ ']'))
  | _, _ :: rest => startingRepetition? false rest
  | _, [] => none
termination_by _ t => t.length
decreasing_by
  all_goals simp
  all_goals
    have h : ∀ (l : List Char), (l.dropWhile (· ≠ ']')).length ≤ l.length := fun l =>
      (List.dropWhile_sublist _).length_le
    have := h (rest.drop 1)
    simp at this
    omega

/-- A pattern of another style in the extended one. -/
def fromPerl : Bytes → Bytes
  | '\\' :: 'd' :: rest => "[0-9]".toList ++ fromPerl rest
  | '\\' :: 'D' :: rest => "[^0-9]".toList ++ fromPerl rest
  | '\\' :: 't' :: rest => '\t' :: fromPerl rest
  | '\\' :: 'n' :: rest => '\n' :: fromPerl rest
  | '\\' :: c :: rest => '\\' :: c :: fromPerl rest
  | '(' :: '?' :: ':' :: rest => '(' :: fromPerl rest
  | c :: rest => c :: fromPerl rest
  | [] => []

/-- The pattern that a text is, or what is wrong with it. -/
def searchPattern (style : PatternStyle) (t : Bytes) : Except String Pattern :=
  let glyphs (t : Bytes) : Glyphs := t.map fun c => ⟨c, false⟩
  let read (s : Regex.Style) (t : Bytes) : Except String Pattern :=
    if hasBareClass t then .error "character class syntax is [[:space:]], not [:space:]"
    else
      match regexOf s (glyphs t) with
      | .ok (p, _) => .ok p
      | .error f => .error (patternFault t f)
  match style with
  | .fixed => .ok (Pattern.ofBytes t)
  | .basic => read Regex.basic t
  | .extended => read Regex.lenient t
  | .perl => read Regex.lenient (fromPerl t)

/-- How lines are searched. -/
structure Searching where
  pattern : Pattern
  folded : Bool
  words : Bool
  wholeLines : Bool
  inverted : Bool

/-- The end of what is found at a place, as the search wants it. -/
def Searching.endAt? (g : Searching) (s : Subject) (start : Nat) : Option Nat :=
  let ends := (s.follow g.pattern ⟨start, []⟩).map Found.position
  let wanted := ends.filter fun e =>
    (!g.wholeLines || start = 0 && e = s.text.size) &&
      (!g.words || !s.isWordBefore start && !s.isWordAt e)
  wanted.foldl (fun best e => some (max e (best.getD 0))) none

/-- The first place from one on where something is found, and its end. -/
def Searching.findFrom (g : Searching) (s : Subject) : Nat → Nat → Option (Nat × Nat)
  | 0, _ => none
  | fuel + 1, start =>
    if s.text.size < start then none
    else
      match g.endAt? s start with
      | some e => some (start, e)
      | none => if g.wholeLines then none else findFrom g s fuel (start + 1)

/-- Whether a line is one that is searched for. -/
def Searching.selects (g : Searching) (line : Bytes) : Bool :=
  let s : Subject := ⟨line.toArray, g.folded⟩
  (g.findFrom s (line.length + 1) 0).isSome != g.inverted

/-- All that is found in a line, that is not empty. -/
def Searching.parts (g : Searching) (line : Bytes) : List (Nat × Bytes) :=
  let s : Subject := ⟨line.toArray, g.folded⟩
  let rec go : Nat → Nat → List (Nat × Bytes)
    | 0, _ => []
    | fuel + 1, start =>
      match g.findFrom s (line.length + 1) start with
      | none => []
      | some (a, b) =>
        if a = b then if line.length ≤ a then [] else go fuel (a + 1)
        else (a, s.between a b) :: go fuel b
  go (line.length + 1) 0

/-- How what is found is written. -/
structure Finding where
  count : Bool
  /-- Whether only names are written: of files with something, or of those without. -/
  names : Option Bool
  quiet : Bool
  onlyParts : Bool
  numbers : Bool
  offsets : Bool
  named : Bool
  before : Nat
  after : Nat
  /-- Whether lines that are apart are separated. -/
  separated : Bool
  most : Option Nat
  ending : Char
  zeroNames : Bool
  colored : Bool
  binaryAsText : Bool
  label : Bytes
  tab : Bool

/-- A text in a color. -/
def inColor (on : Bool) (code : String) (t : Bytes) : Bytes :=
  if on then "\x1b[".toList ++ code.toList ++ "m\x1b[K".toList ++ t ++ "\x1b[m\x1b[K".toList else t

/-- What stands before a line. -/
def Finding.lead (f : Finding) (name : Bytes) (number offset : Nat) (mark : Char) : Bytes :=
  let separator : Bytes := inColor f.colored "36" [mark]
  (if f.named then inColor f.colored "35" name ++ (if f.zeroNames then ['\x00'] else separator)
    else []) ++
    (if f.numbers then inColor f.colored "32" (toString number).toList ++ separator else []) ++
    (if f.offsets then inColor f.colored "32" (toString offset).toList ++ separator else [])

/-- A line with what is found in it in color. -/
def coloredLine (g : Searching) (line : Bytes) : Bytes :=
  let rec go : Nat → List (Nat × Bytes) → Bytes → Bytes
    | _, [], rest => rest
    | position, (start, t) :: parts, rest =>
      rest.take (start - position) ++ inColor true "01;31" t ++
        go (start + t.length) parts (rest.drop (start - position + t.length))
  go 0 (g.parts line) line

/-- A line of a file: its number, where it starts, and whether it is searched for. -/
structure SearchedLine where
  number : Nat
  offset : Nat
  text : Bytes
  selected : Bool

/-- The lines of a text up to where the search stops. -/
def searchedLines (g : Searching) (f : Finding) (t : Bytes) : List SearchedLine :=
  let lines := pieces f.ending false t
  let rec go : Nat → Nat → Nat → List Bytes → List SearchedLine
    | _, _, _, [] => []
    | n, offset, found, l :: ls =>
      let stopped := f.most.any fun m => m ≤ found
      let selected := !stopped && g.selects l
      ⟨n, offset, l, selected⟩ ::
        go (n + 1) (offset + l.length + 1) (if selected then found + 1 else found) ls
  go 1 0 0 lines

/-- The lines that are written: those that are searched for and those around them. Behind the last one
that may be found, lines are shown only up to the next one that would be. -/
def shownLines (f : Finding) (lines : List SearchedLine) : List SearchedLine :=
  let total := lines.length
  let marks := lines.foldl (fun (a : Array Bool) l =>
    if l.selected then
      (List.range (f.before + f.after + 1)).foldl (fun (a : Array Bool) k =>
        if f.before ≤ l.number - 1 + k then a.setIfInBounds (l.number - 1 + k - f.before) true else a) a
    else a) (Array.replicate total false)
  lines.filter fun l => (marks[l.number - 1]?).getD false

/-- Searches one file; whether something was found. -/
def searchFile (who : Bytes) (g : Searching) (f : Finding) (name t : Bytes) : Act Bool := do
  let binary := !f.binaryAsText && f.ending = '\n' && t.contains '\x00'
  let lines := searchedLines g f t
  let found := lines.countP (·.selected)
  let nameEnding : Bytes := if f.zeroNames then ['\x00'] else ['\n']
  if f.quiet then return 0 < found
  else
    match f.names with
    | some present =>
      if (0 < found) = present then put who (inColor f.colored "35" name ++ nameEnding)
      return (0 < found) = present
    | none =>
      if f.count then
        let separator : Bytes :=
          if f.zeroNames then ['\x00'] else inColor f.colored "36" [':']
        put who ((if f.named then inColor f.colored "35" name ++ separator else []) ++
          (toString found).toList ++ ['\n'])
        return 0 < found
      else if binary && 0 < found then
        say (who ++ ": ".toList ++ name ++ ": binary file matches\n".toList)
        return true
      else
        let written := if f.onlyParts then lines.filter (·.selected) else shownLines f lines
        let context := 0 < f.before || 0 < f.after
        let rec write (last : Option Nat) : List SearchedLine → List Bytes
          | [] => []
          | l :: ls =>
            let gap : Bytes :=
              match last with
              | some n =>
                if context && f.separated && n + 1 < l.number then
                  inColor f.colored "36" ['-', '-'] ++ ['\n']
                else []
              | none => []
            let mark : Char := if l.selected then ':' else '-'
            let text : Bytes :=
              if f.onlyParts then
                if g.inverted then []
                else
                  (g.parts l.text).flatMap fun (start, t) =>
                    f.lead name l.number (l.offset + start) ':' ++ inColor f.colored "01;31" t ++
                      [f.ending]
              else
                f.lead name l.number l.offset mark ++ (if f.tab then ['\t'] else []) ++
                  (if f.colored && l.selected && !g.inverted then coloredLine g l.text else l.text) ++
                  [f.ending]
            (gap ++ text) :: write (some l.number) ls
        put who (write none written).flatten
        return 0 < found

/-- How `grep` is used. -/
def grepUsage (who : Bytes) : Act Unit := do
  sayLine ("Usage: " ++ shown who ++ " [OPTION]... PATTERNS [FILE]...")
  seeHelp who 2

/-- The options of `grep`. -/
def grepForms : List OptionForm :=
  [flag 'E' "extended-regexp", flag 'F' "fixed-strings", flag 'G' "basic-regexp",
    flag 'P' "perl-regexp", valued 'e' "regexp", valued 'f' "file", flag 'i' "ignore-case",
    flag 'y' "", longOnly "no-ignore-case" .nothing, flag 'w' "word-regexp", flag 'x' "line-regexp",
    flag 'z' "null-data", flag 's' "no-messages", flag 'v' "invert-match", valued 'm' "max-count",
    flag 'b' "byte-offset", flag 'n' "line-number", longOnly "line-buffered" .nothing,
    flag 'H' "with-filename", flag 'h' "no-filename", longOnly "label" .argument,
    flag 'o' "only-matching", flag 'q' "quiet", flag 'q' "silent", longOnly "binary-files" .argument,
    flag 'a' "text", flag 'I' "", valued 'd' "directories", valued 'D' "devices",
    flag 'r' "recursive", flag 'R' "dereference-recursive", longOnly "include" .argument,
    longOnly "exclude" .argument, longOnly "exclude-from" .argument,
    longOnly "exclude-dir" .argument, flag 'L' "files-without-match", flag 'l' "files-with-matches",
    flag 'c' "count", flag 'T' "initial-tab", flag 'Z' "null", valued 'B' "before-context",
    valued 'A' "after-context", valued 'C' "context", longOnly "group-separator" .argument,
    longOnly "no-group-separator" .nothing, longOnly "color" .perhaps, longOnly "colour" .perhaps,
    flag 'U' "binary"]

/-- The words of `grep` with counts of context as options with an argument. -/
def contextWords (args : List Bytes) : List Bytes :=
  args.map fun w =>
    match w with
    | '-' :: c :: cs =>
      if c.isDigit && cs.all Char.isDigit then "-C".toList ++ c :: cs else w
    | w => w

/-- The files below a path that are searched. -/
def searchedFiles (w : Words) (s : State) (f : Located) : List Located :=
  let patterns (key : String) : List Pattern :=
    w.options.filterMap fun o => if o.1 = key then o.2.map namePattern else none
  let fits (ps : List Pattern) (n : Bytes) : Bool := ps.any fun p => p.fits false n
  let included := patterns "include"
  let excluded := patterns "exclude"
  let excludedDirs := patterns "exclude-dir"
  let rec go : Nat → Located → List Located
    | 0, _ => []
    | fuel + 1, f =>
      match f.entry with
      | .directory =>
        (s.machine.files.names f.place).reverse.flatMap fun n =>
          let place := f.place ++ [n]
          let path := if f.path.isEmpty then n else below f.path n
          match s.machine.files.entryAt place with
          | some .directory =>
            if fits excludedDirs n then [] else go fuel ⟨path, place, .directory⟩
          | some (.file (.link _)) =>
            if w.has "R" then
              match reached s path with
              | .ok (place, e) => go fuel ⟨path, place, e⟩
              | .error _ => []
            else []
          | some (.file (.regular r)) => [⟨path, place, .file (.regular r)⟩]
          | _ => []
      | _ => [f]
  (go 100 f).filter fun f =>
    let n := lastName f.path
    (included.isEmpty || fits included n) && !fits excluded n

/-- Writes lines that match, in a style if no option tells another one. -/
def grepIn (usual : PatternStyle) : Tool := fun who args => do
  match wordsOf (grepForms ++ [longOnly "help" .nothing, longOnly "version" .nothing]) false
      (args.length + 1) (contextWords args) with
  | .error e =>
    complain who e
    grepUsage who
  | .ok w =>
    let style :=
      match w.last? ["E", "F", "G", "P"] with
      | some "E" => PatternStyle.extended
      | some "F" => .fixed
      | some "G" => .basic
      | some _ => .perl
      | none => usual
    let given ← (w.options.filter fun o => o.1 = "e" || o.1 = "f").mapM fun o => do
      let t := o.2.getD []
      if o.1 = "e" then return pieces '\n' false (t ++ ['\n'])
      else
        match ← contentOf t with
        | .ok t => return linesOf t
        | .error f =>
          complain who (shown t ++ ": " ++ f.reason)
          leaveShell 2
    let explicit := w.has "e" || w.has "f"
    match explicit, w.operands with
    | false, [] => grepUsage who
    | _, operands =>
      let texts :=
        if explicit then given.flatten
        else pieces '\n' false (((operands.head?).getD []) ++ ['\n'])
      let paths := if explicit then operands else operands.drop 1
      let number (key : String) : Act (Option Nat) := do
        match w.value? key with
        | none => return none
        | some t =>
          match number? t with
          | some n => return some n
          | none =>
            if key = "m" then
              complain who "invalid max count"
              leaveShell 2
            else
              complain who (shown t ++ ": invalid context length argument")
              grepUsage who
              throw .exit
      let context ← number "C"
      let before ← number "B"
      let after ← number "A"
      let most ← match w.value? "m" with
        | some ('-' :: _) => pure none
        | _ => number "m"
      match texts.mapM (searchPattern style) with
      | .error e => fail who 2 e
      | .ok patterns =>
        if style = .extended then
          texts.forM fun t =>
            match startingRepetition? true t with
            | some op => complain who ("warning: " ++ op ++ " at start of expression")
            | none => pure ()
        let folded := match w.last? ["i", "y", "no-ignore-case"] with
          | some "no-ignore-case" | none => false
          | some _ => true
        let g : Searching :=
          { pattern := if patterns.isEmpty then .oneOf false [] else Pattern.alternatives patterns, folded, words := w.has "w"
            wholeLines := w.has "x", inverted := w.has "v" }
        let recursive := w.has "r" || w.has "R" || w.value? "d" = some "recurse".toList
        let names := if paths.isEmpty then (if recursive then [[]] else [['-']]) else paths
        let s ← get
        let severalTrees : Bool := names.any fun n => n.isEmpty || leadsToDirectory s n
        let named :=
          match w.last? ["H", "h"] with
          | some "H" => true
          | some _ => false
          | none => names.length > 1 || recursive && severalTrees
        let color := (w.value? "color" <|> w.value? "colour").map shown
        let f : Finding :=
          { count := w.has "c"
            names := (w.last? ["l", "L"]).map (· = "l")
            quiet := w.has "q", onlyParts := w.has "o", numbers := w.has "n", offsets := w.has "b"
            named, before := (before <|> context).getD 0, after := (after <|> context).getD 0
            separated := !w.has "no-group-separator", most
            ending := if w.has "z" then '\x00' else '\n', zeroNames := w.has "Z"
            colored := color = some "always"
            binaryAsText := w.has "a" || (w.value? "binary-files") = some "text".toList
            label := (w.value? "label").getD "(standard input)".toList, tab := w.has "T" }
        let search (shownAs : Bytes) (name : Bytes) : Act (Option Bool) := do
          match ← openOperand name with
          | .error fault =>
            if !w.has "s" then complain who (shown shownAs ++ ": " ++ fault.reason)
            return none
          | .ok stream =>
            match ← drain stream with
            | .error fault =>
              if !w.has "s" then complain who (shown shownAs ++ ": " ++ fault.reason)
              return none
            | .ok t => return some (← searchFile who g f shownAs t)
        let rec go (found failed : Bool) : List Bytes → Act (Bool × Bool)
          | [] => return (found, failed)
          | n :: ns => do
            let s ← get
            let done := f.quiet && found
            if done then return (found, failed)
            else if n = ['-'] then
              match ← search f.label n with
              | some b => go (found || b) failed ns
              | none => go found true ns
            else if recursive && (n.isEmpty || leadsToDirectory s n) then
              let place := if n.isEmpty then s.here else (s.locate n).toOption.getD []
              let results ← (searchedFiles w s ⟨n, place, .directory⟩).mapM fun file =>
                search file.path file.path
              go (found || results.any (· = some true)) (failed || results.any Option.isNone) ns
            else
              match ← search n n with
              | some b => go (found || b) failed ns
              | none => go found true ns
        if most = some 0 && !f.count && f.names ≠ some false then ends 1
        else
          let (found, failed) ← go false false names
          ends (if failed && !(f.quiet && found) then 2 else if found then 0 else 1)

end Provision.Shell.Tool
