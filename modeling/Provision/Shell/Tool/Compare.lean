import Provision.Shell.Tool.Directory

/-!
# Programs that compare files

Byte by byte, or line by line: which lines must be removed and added to make one file of the other.
-/

namespace Provision.Shell.Tool

/-! ## Byte by byte -/

/-- The first place where two texts differ, with its line; none if one is the start of the other. -/
def firstDifference : Nat → Nat → Bytes → Bytes → Option (Nat × Nat × Char × Char)
  | n, line, a :: as, b :: bs =>
    if a = b then firstDifference (n + 1) (if a = '\n' then line + 1 else line) as bs
    else some (n, line, a, b)
  | _, _, _, _ => none

/-- Compares two files byte by byte. -/
def cmp : Tool := fun who args =>
  let seeHelp : Act Unit := do
    complain who ("Try '" ++ shown who ++ " --help' for more information.")
    ends 2
  withWords who 2
    [flag 'b' "print-bytes", valued 'i' "ignore-initial", flag 'l' "verbose", valued 'n' "bytes",
      flag 's' "quiet", flag 's' "silent"] false args fun w => do
    match w.operands with
    | [] =>
      complain who ("missing operand after '" ++ shown who ++ "'")
      seeHelp
    | a :: rest =>
      let b := (rest.head?).getD ['-']
      let read (n : Bytes) : Act Bytes := do
        match ← contentOf n with
        | .ok t => return t
        | .error f =>
          if !(w.has "s") then complain who (shown n ++ ": " ++ f.reason)
          leaveShell 2
      let skip (t : Bytes) : Bytes := t.drop (((w.value? "i").bind size?).getD 0)
      let cut (t : Bytes) : Bytes :=
        match (w.value? "n").bind size? with
        | some n => t.take n
        | none => t
      let x := cut (skip (← read a))
      let y ←
        if a = b then pure x
        else do
          let t ← read b
          pure (cut (skip t))
      let short (n : Bytes) (t : Bytes) : Act Unit := do
        if !w.has "s" then
          let lines := t.count '\n'
          let place :=
            if t.isEmpty then " which is empty"
            else
              " after byte " ++ toString t.length ++
                (if w.has "l" then ""
                  else if t.getLast? = some '\n' then ", line " ++ toString lines
                  else ", in line " ++ toString (lines + 1))
          complain who ("EOF on " ++ shown n ++ place)
        ends 1
      if w.has "l" then
        let pairs := (x.zip y).zipIdx.filter fun ((c, d), _) => c ≠ d
        let width := (toString (max x.length y.length)).length
        put who (pairs.flatMap fun ((c, d), i) =>
          padNumber width (i + 1) ++ ' ' :: (padLeft 3 (String.ofList (octalText 1 c.toNat))).toList ++
            ' ' :: (padLeft 3 (String.ofList (octalText 1 d.toNat))).toList ++ ['\n'])
        if x.length < y.length then short a x
        else if y.length < x.length then short b y
        else ends (statusOf pairs.isEmpty)
      else
        match firstDifference 1 1 x y with
        | some (n, line, c, d) =>
          if !w.has "s" then
            let bytes : String :=
              if w.has "b" then
                " is " ++ padLeft 3 (String.ofList (octalText 1 c.toNat)) ++ " " ++ shown [c] ++ " " ++
                  padLeft 3 (String.ofList (octalText 1 d.toNat)) ++ " " ++ shown [d]
              else ""
            let unit := if w.has "b" then "byte " else "char "
            put who (shown a ++ " " ++ shown b ++ " differ: " ++ unit ++ toString n ++ ", line " ++
              toString line ++ bytes ++ "\n").toList
          ends 1
        | none =>
          if x.length < y.length then short a x
          else if y.length < x.length then short b y
          else ends 0

/-! ## Line by line -/

/-- A change: so many lines from a place of the first file are replaced by so many lines from a place
of the second one. -/
structure LineChange where
  first : Nat
  removed : Nat
  second : Nat
  added : Nat
  deriving Inhabited

/-- The lengths of the longest common parts of the ends of two lists of lines. -/
def commonTable (a b : Array Nat) : Array (Array Nat) :=
  let empty := Array.replicate (b.size + 1) 0
  let row (below : Array Nat) (x : Nat) : Array Nat :=
    (List.range b.size).foldl (fun (row : Array Nat) i =>
      let j := b.size - 1 - i
      let value :=
        if some x = b[j]? then (below[j + 1]?).getD 0 + 1
        else max ((below[j]?).getD 0) ((row[j + 1]?).getD 0)
      row.setIfInBounds j value) empty
  let rows := a.toList.reverse.foldl (fun (rows : List (Array Nat)) x =>
    row ((rows.head?).getD empty) x :: rows) [empty]
  rows.toArray

/-- Which lines of two files have no partner. -/
def unpartnered (a b : Array Nat) (table : Array (Array Nat)) : Nat → Nat → Nat →
    List Bool × List Bool
  | 0, _, _ => ([], [])
  | fuel + 1, i, j =>
    match a[i]?, b[j]? with
    | none, none => ([], [])
    | some _, none =>
      let (x, y) := unpartnered a b table fuel (i + 1) j
      (true :: x, y)
    | none, some _ =>
      let (x, y) := unpartnered a b table fuel i (j + 1)
      (x, true :: y)
    | some p, some q =>
      if p = q then
        let (x, y) := unpartnered a b table fuel (i + 1) (j + 1)
        (false :: x, false :: y)
      else
        let value (i j : Nat) : Nat := ((table[i]?).bind (·[j]?)).getD 0
        if value i (j + 1) ≤ value (i + 1) j then
          let (x, y) := unpartnered a b table fuel (i + 1) j
          (true :: x, y)
        else
          let (x, y) := unpartnered a b table fuel i (j + 1)
          (x, true :: y)

/-- Marks moved as far to the end as they can be, when the lines are equal that they move over. -/
def shifted (lines : Array Nat) (other : Array Bool) (marks : Array Bool) : Array Bool :=
  let rec go : Nat → Nat → Nat → Array Bool → Array Bool
    | 0, _, _, marks => marks
    | fuel + 1, i, j, marks =>
      if lines.size ≤ i then marks
      else if !(marks[i]?).getD false then
        let rec skip : Nat → Nat → Nat
          | 0, j => j
          | n + 1, j => if (other[j]?).getD false then skip n (j + 1) else j
        go fuel (i + 1) (skip other.size j + 1) marks
      else
        let rec finish : Nat → Nat → Nat
          | 0, e => e
          | n + 1, e => if (marks[e]?).getD false then finish n (e + 1) else e
        let stop := finish lines.size i
        if stop < lines.size && lines[i]? = lines[stop]? && !(other[j]?).getD false then
          let marks := (marks.setIfInBounds i false).setIfInBounds stop true
          go fuel (i + 1) (j + 1) marks
        else go fuel stop j marks
  go (2 * lines.size + 2) 0 0 marks

/-- The changes that marks tell. -/
def lineChanges : Nat → Nat → Nat → List Bool → List Bool → List LineChange
  | 0, _, _, _, _ => []
  | fuel + 1, i, j, x, y =>
    match x, y with
    | [], [] => []
    | false :: xs, false :: ys => lineChanges fuel (i + 1) (j + 1) xs ys
    | x, y =>
      let r := (x.takeWhile fun m => m).length
      let a := (y.takeWhile fun m => m).length
      if r = 0 && a = 0 then []
      else ⟨i, r, j, a⟩ :: lineChanges fuel (i + r) (j + a) (x.drop r) (y.drop a)

/-- The changes that make one list of lines of another one, when lines with one key are equal. -/
def differences (key : Bytes → Bytes) (a b : List Bytes) : List LineChange :=
  let keys := (a ++ b).map key
  let sorted := (keys.mergeSort fun x y => compareBytes x y ≠ .gt).eraseReps.toArray
  let number (k : Bytes) : Nat :=
    let rec search : Nat → Nat → Nat → Nat
      | 0, low, _ => low
      | fuel + 1, low, high =>
        if high ≤ low + 1 then low
        else
          let middle := (low + high) / 2
          if compareBytes ((sorted[middle]?).getD []) k = .gt then search fuel low middle
          else search fuel middle high
    search 64 0 sorted.size
  let x := (a.map fun l => number (key l)).toArray
  let y := (b.map fun l => number (key l)).toArray
  let start := ((x.zip y).toList.takeWhile fun (p, q) => p = q).length
  let rest := min x.size y.size - start
  let ending := min rest ((x.toList.reverse.zip y.toList.reverse).takeWhile fun (p, q) => p = q).length
  let middle (z : Array Nat) : Array Nat := z.extract start (z.size - ending)
  let p := middle x
  let q := middle y
  let (m, n) := unpartnered p q (commonTable p q) (p.size + q.size + 1) 0 0
  let full (marks : List Bool) : Array Bool :=
    (List.replicate start false ++ marks ++ List.replicate ending false).toArray
  let m := shifted x (full n) (full m)
  let n := shifted y m (full n)
  lineChanges (x.size + y.size + 1) 0 0 m.toList n.toList

/-- A file that is compared: its name, its lines and whether the last one is ended. -/
structure Compared where
  name : Bytes
  lines : List Bytes
  complete : Bool

namespace Compared

/-- Some lines of a file behind a mark. -/
def marked (c : Compared) (mark : Bytes) (first count : Nat) : Bytes :=
  ((c.lines.drop first).take count).zipIdx.flatMap fun (l, i) =>
    mark ++ l ++ '\n' ::
      (if !c.complete && first + i + 1 = c.lines.length then
        "\\ No newline at end of file\n".toList else [])

end Compared

/-- A range of lines as the usual form tells it. -/
def usualRange (first count : Nat) : String :=
  if count ≤ 1 then toString (first + count)
  else toString (first + 1) ++ "," ++ toString (first + count)

/-- The changes in the usual form. -/
def usualForm (a b : Compared) (cs : List LineChange) : Bytes :=
  cs.flatMap fun c =>
    let letter := if c.removed = 0 then "a" else if c.added = 0 then "d" else "c"
    (usualRange c.first c.removed ++ letter ++ usualRange c.second c.added ++ "\n").toList ++
      a.marked ['<', ' '] c.first c.removed ++
      (if c.removed ≠ 0 && c.added ≠ 0 then "---\n".toList else []) ++
      b.marked ['>', ' '] c.second c.added

/-- Changes in groups that are shown together. -/
def hunks (context : Nat) : List LineChange → List (List LineChange)
  | [] => []
  | c :: cs =>
    match hunks context cs with
    | (d :: ds) :: rest =>
      if d.first ≤ c.first + c.removed + 2 * context then (c :: d :: ds) :: rest
      else [c] :: (d :: ds) :: rest
    | _ => [[c]]

/-- A range of lines as the unified form tells it. -/
def unifiedRange (first count : Nat) : String :=
  if count = 1 then toString (first + 1)
  else if count = 0 then toString first ++ ",0"
  else toString (first + 1) ++ "," ++ toString count

/-- The changes in the unified form. -/
def unifiedForm (context : Nat) (a b : Compared) (cs : List LineChange) : Bytes :=
  (hunks context cs).flatMap fun h =>
    match h with
    | [] => []
    | c :: _ =>
      let last := (h.getLast?).getD c
      let before := min context c.first
      let start := c.first - before
      let after := min context (a.lines.length - (last.first + last.removed))
      let stop := last.first + last.removed + after
      let otherStart := c.second - before
      let otherStop := last.second + last.added + after
      let rec body (now : Nat) : List LineChange → Bytes
        | [] => a.marked [' '] now (stop - now)
        | d :: ds =>
          a.marked [' '] now (d.first - now) ++ a.marked ['-'] d.first d.removed ++
            b.marked ['+'] d.second d.added ++ body (d.first + d.removed) ds
      ("@@ -" ++ unifiedRange start (stop - start) ++ " +" ++
        unifiedRange otherStart (otherStop - otherStart) ++ " @@\n").toList ++ body start h

/-- A range of lines as the form with context tells it. -/
def contextRange (first count : Nat) : String :=
  if count ≤ 1 then toString (first + count)
  else toString (first + 1) ++ "," ++ toString (first + count)

/-- The changes in the form with context. -/
def contextForm (context : Nat) (a b : Compared) (cs : List LineChange) : Bytes :=
  (hunks context cs).flatMap fun h =>
    match h with
    | [] => []
    | c :: _ =>
      let last := (h.getLast?).getD c
      let before := min context c.first
      let start := c.first - before
      let after := min context (a.lines.length - (last.first + last.removed))
      let stop := last.first + last.removed + after
      let otherStart := c.second - before
      let otherStop := last.second + last.added + after
      let side (f : Compared) (mark : Char) (place count other : LineChange → Nat) (start stop : Nat) :
          Bytes :=
        let rec body (now : Nat) : List LineChange → Bytes
          | [] => f.marked [' ', ' '] now (stop - now)
          | d :: ds =>
            f.marked [' ', ' '] now (place d - now) ++
              f.marked [if other d = 0 then mark else '!', ' '] (place d) (count d) ++
              body (place d + count d) ds
        if h.all fun d => count d = 0 then [] else body start h
      "***************\n*** ".toList ++ (contextRange start (stop - start)).toList ++ " ****\n".toList ++
        side a '-' (·.first) (·.removed) (·.added) start stop ++ "--- ".toList ++
        (contextRange otherStart (otherStop - otherStart)).toList ++ " ----\n".toList ++
        side b '+' (·.second) (·.added) (·.removed) otherStart otherStop

/-- The changes as commands of an editor, the last one first. -/
def editForm (b : Compared) (cs : List LineChange) : Bytes :=
  cs.reverse.flatMap fun c =>
    let letter := if c.removed = 0 then "a" else if c.added = 0 then "d" else "c"
    (usualRange c.first c.removed ++ letter ++ "\n").toList ++
      (if c.added = 0 then [] else b.marked [] c.second c.added ++ ['.', '\n'])

/-- What counts of a line that is compared. -/
def lineKey (folds allBlanks blanks trailing : Bool) (l : Bytes) : Bytes :=
  let isBlank (c : Char) : Bool := c = ' ' || c = '\t' || c = '\r' || c = '\x0b' || c = '\x0c'
  let l := if folds then l.map Char.toLower else l
  if allBlanks then l.filter (!isBlank ·)
  else if blanks then
    let rec squeeze : Bytes → Bytes
      | [] => []
      | c :: rest =>
        if isBlank c then
          match rest with
          | d :: _ => if isBlank d then squeeze rest else ' ' :: squeeze rest
          | [] => []
        else c :: squeeze rest
    squeeze l
  else if trailing then (l.reverse.dropWhile isBlank).reverse
  else l

/-- How two trees are compared. -/
structure Comparing where
  recursive : Bool
  brief : Bool
  reportsSame : Bool
  missingIsEmpty : Bool
  ignoresBlankLines : Bool
  labels : List Bytes
  /-- The words that are shown before the names of files of a tree. -/
  shownWords : Bytes
  key : Bytes → Bytes
  unified : Option Nat
  context : Option Nat
  edits : Bool

/-- Compares two files; the status. -/
def compareFiles (who : Bytes) (c : Comparing) (heading : Bool) (a b : Bytes) : Act Nat := do
  let s ← get
  let read (n : Bytes) : Act (Except FileFault Bytes) := do
    match ← contentOf n with
    | .error .absent => if c.missingIsEmpty then return .ok [] else return .error .absent
    | r => return r
  let x ← read a
  let y ← if a = b then pure x else read b
  match x, y with
  | .error f, .error g =>
    complain who (shown a ++ ": " ++ f.reason)
    complain who (shown b ++ ": " ++ g.reason)
    return 2
  | .error f, _ =>
    complain who (shown a ++ ": " ++ f.reason)
    return 2
  | _, .error f =>
    complain who (shown b ++ ": " ++ f.reason)
    return 2
  | .ok x, .ok y =>
    let compared (n t : Bytes) : Compared := ⟨n, linesOf t, t.isEmpty || t.getLast? = some '\n'⟩
    let p := compared a x
    let q := compared b y
    let last (f : Compared) (l : Bytes × Bool) : Bytes :=
      if l.2 && !f.complete then c.key l.1 ++ ['\n'] else c.key l.1
    let keyed (f : Compared) : List Bytes :=
      f.lines.zipIdx.map fun (l, i) => last f (l, i + 1 = f.lines.length)
    let changes := differences (fun k => k) (keyed p) (keyed q)
    let changes :=
      if c.ignoresBlankLines then
        changes.filter fun d =>
          ((p.lines.drop d.first).take d.removed ++ (q.lines.drop d.second).take d.added).any
            fun l => !l.isEmpty
      else changes
    if changes.isEmpty then
      if c.reportsSame then
        put who ("Files " ++ shown a ++ " and " ++ shown b ++ " are identical\n").toList
      return 0
    else if c.brief then
      put who ("Files " ++ shown a ++ " and " ++ shown b ++ " differ\n").toList
      return 1
    else
      if heading then put who (who ++ ' ' :: c.shownWords ++ a ++ ' ' :: b ++ ['\n'])
      let stamp (n : Bytes) : Bytes :=
        match reached s n with
        | .ok (place, e) =>
          '\t' :: (Moment.ofSeconds ((Located.mk n place e).seconds s.machine)).text
            "%Y-%m-%d %H:%M:%S.%N %z".toList
        | .error _ => '\t' :: (Moment.ofSeconds 0).text "%Y-%m-%d %H:%M:%S.%N %z".toList
      let label (i : Nat) (n : Bytes) : Bytes := (c.labels[i]?).getD (n ++ stamp n)
      match c.unified, c.context with
      | some n, _ =>
        put who ("--- ".toList ++ label 0 a ++ "\n+++ ".toList ++ label 1 b ++ ['\n'])
        put who (unifiedForm n p q changes)
      | none, some n =>
        put who ("*** ".toList ++ label 0 a ++ "\n--- ".toList ++ label 1 b ++ ['\n'])
        put who (contextForm n p q changes)
      | none, none => put who (if c.edits then editForm q changes else usualForm p q changes)
      return 1

/-- Compares two directories; the status. -/
def compareTrees (who : Bytes) (c : Comparing) : Nat → Bytes → Bytes → Act Nat
  | 0, _, _ => return 2
  | fuel + 1, a, b => do
    let s ← get
    let names (p : Bytes) : List Bytes :=
      match s.locate p with
      | .ok place => s.machine.files.names place
      | .error _ => []
    let all := ((names a ++ names b).mergeSort fun x y => compareBytes x y ≠ .gt).eraseReps
    let results ← all.mapM fun n => do
      let x := below a n
      let y := below b n
      let s ← get
      match reached s x, reached s y with
      | .ok (_, e), .error _ =>
        if c.missingIsEmpty && !isDirectory e then compareFiles who c true x y
        else
          put who ("Only in " ++ shown a ++ ": " ++ shown n ++ "\n").toList
          return 1
      | .error _, .ok (_, e) =>
        if c.missingIsEmpty && !isDirectory e then compareFiles who c true x y
        else
          put who ("Only in " ++ shown b ++ ": " ++ shown n ++ "\n").toList
          return 1
      | .ok (_, .directory), .ok (_, .directory) =>
        if c.recursive then compareTrees who c fuel x y
        else
          put who ("Common subdirectories: " ++ shown x ++ " and " ++ shown y ++ "\n").toList
          return 0
      | .ok (p, e), .ok (q, f) =>
        if isDirectory e ≠ isDirectory f then
          put who ("File " ++ shown x ++ " is a " ++ (Located.mk x p e).kind s.machine ++
            " while file " ++ shown y ++ " is a " ++ (Located.mk y q f).kind s.machine ++ "\n").toList
          return 1
        else compareFiles who c true x y
      | _, _ => return 0
    return results.foldl max 0

/-- Compares files line by line. -/
def diff : Tool := fun who args =>
  let forms :=
    [flag 'a' "text", flag 'b' "ignore-space-change", flag 'B' "ignore-blank-lines", flag 'c' "",
      valued 'C' "", longOnly "context" .perhaps, flag 'd' "minimal", flag 'e' "ed",
      flag 'E' "ignore-tab-expansion", flag 'i' "ignore-case", flag 'q' "brief", flag 'r' "recursive",
      flag 's' "report-identical-files", flag 'N' "new-file", flag 'n' "rcs", flag 'p' "",
      flag 't' "expand-tabs", flag 'u' "", valued 'U' "", longOnly "unified" .perhaps,
      flag 'w' "ignore-all-space", flag 'Z' "ignore-trailing-space", valued 'L' "label",
      valued 'x' "exclude", flag 'y' "side-by-side", longOnly "normal" .nothing,
      longOnly "strip-trailing-cr" .nothing, longOnly "color" .perhaps]
  match wordsOf forms false (args.length + 1) args with
  | .error e => do
    complain who e
    complain who ("Try '" ++ shown who ++ " --help' for more information.")
    ends 2
  | .ok w => do
    let seeHelp (text : String) : Act Unit := do
      complain who text
      complain who ("Try '" ++ shown who ++ " --help' for more information.")
      ends 2
    match w.operands with
    | [] => seeHelp ("missing operand after '" ++ shown ((args.getLast?).getD who) ++ "'")
    | [a] => seeHelp ("missing operand after " ++ quotedText a)
    | _ :: _ :: extra :: _ => seeHelp ("extra operand " ++ quotedText extra)
    | [a, b] =>
      let s ← get
      let lines (short long given : String) : Option Nat :=
        if w.has given then (w.value? given).bind number?
        else if w.has long then some (((w.value? long).bind number?).getD 3)
        else if w.has short then some 3
        else none
      let plainWords := args.filter fun t => t ≠ a && t ≠ b
      let c : Comparing :=
        { recursive := w.has "r", brief := w.has "q", reportsSame := w.has "s"
          missingIsEmpty := w.has "N", ignoresBlankLines := w.has "B"
          labels := w.options.filterMap fun o => if o.1 = "L" then o.2 else none
          shownWords := plainWords.flatMap (· ++ [' '])
          key := lineKey (w.has "i") (w.has "w") (w.has "b")
            (w.has "Z" || w.has "strip-trailing-cr")
          unified := lines "u" "unified" "U", context := lines "c" "context" "C"
          edits := w.has "e" }
      let isFolder (p : Bytes) : Bool := p ≠ ['-'] && leadsToDirectory s p
      let status ←
        match isFolder a, isFolder b with
        | true, true => compareTrees who c 64 a b
        | true, false =>
          if (s.find b).toOption.isSome || b = ['-'] then
            compareFiles who c false (below a (lastName b)) b
          else compareFiles who c false a b
        | false, true =>
          if (s.find a).toOption.isSome || a = ['-'] then
            compareFiles who c false a (below b (lastName a))
          else compareFiles who c false a b
        | false, false => compareFiles who c false a b
      ends status

end Provision.Shell.Tool
