import Provision.Shell.Floating
import Provision.Shell.Tool.Options

/-!
# Programs about the order of lines

Lines are put into order by keys, which are parts of them that are compared in ways of their own;
lines in order are compared with those next to them or with those of another file.
-/

namespace Provision.Shell.Tool

/-! ## Comparing texts -/

/-- Compares texts byte by byte. -/
def compareBytes : Bytes → Bytes → Ordering
  | [], [] => .eq
  | [], _ => .lt
  | _, [] => .gt
  | a :: as, b :: bs => if a = b then compareBytes as bs else compare a.toNat b.toNat

/-- A decimal number at the start of a text: whether it is negative, its digits before the point
without zeros at the start, and those behind it without zeros at the end. -/
def decimalAhead (t : Bytes) : Bool × Bytes × Bytes :=
  let t := t.dropWhile isBlank
  let negative := t.head? = some '-'
  let t := if negative then t.drop 1 else t
  let whole := t.takeWhile Char.isDigit
  let rest := t.drop whole.length
  let part := if rest.head? = some '.' then (rest.drop 1).takeWhile Char.isDigit else []
  let whole := whole.dropWhile (· = '0')
  let part := (part.reverse.dropWhile (· = '0')).reverse
  (negative && !(whole.isEmpty && part.isEmpty), whole, part)
where
  /-- Whether a byte is a blank. -/
  isBlank (c : Char) : Bool := c = ' ' || c = '\t'

/-- Compares decimal numbers. -/
def compareDecimals (a b : Bool × Bytes × Bytes) : Ordering :=
  let magnitude (a b : Bytes × Bytes) : Ordering :=
    (compare a.1.length b.1.length).then ((compareBytes a.1 b.1).then (compareBytes a.2 b.2))
  match a.1, b.1 with
  | false, false => magnitude a.2 b.2
  | true, true => magnitude b.2 a.2
  | true, false => .lt
  | false, true => .gt

/-- The power that the letter behind a number stands for. -/
def powerOf (t : Bytes) : Nat :=
  let t := t.dropWhile decimalAhead.isBlank
  let t := if t.head? = some '-' then t.drop 1 else t
  let t := t.dropWhile Char.isDigit
  let t := if t.head? = some '.' then (t.drop 1).dropWhile Char.isDigit else t
  match t with
  | c :: _ =>
    let letters := "KMGTPEZYRQ".toList
    if c = 'k' then 1 else (letters.idxOf? c).elim 0 (· + 1)
  | [] => 0

/-- Compares numbers with letters that scale them. -/
def compareScaled (a b : Bytes) : Ordering :=
  let x := decimalAhead a
  let y := decimalAhead b
  let rank (n : Bool × Bytes × Bytes) (t : Bytes) : Int :=
    if n.2.1.isEmpty && n.2.2.isEmpty then 0
    else if n.1 then -(powerOf t : Int) else powerOf t
  let sign (n : Bool × Bytes × Bytes) : Int :=
    if n.1 then -1 else if n.2.1.isEmpty && n.2.2.isEmpty then 0 else 1
  (compare (sign x) (sign y)).then ((compare (rank x a) (rank y b)).then (compareDecimals x y))

/-- The place of a month in the year, by its first letters. -/
def monthOf (t : Bytes) : Nat :=
  let letters := ((t.dropWhile decimalAhead.isBlank).take 3).map Char.toUpper
  let months := ["JAN", "FEB", "MAR", "APR", "MAY", "JUN", "JUL", "AUG", "SEP", "OCT", "NOV", "DEC"]
  (months.idxOf? (shown letters)).elim 0 (· + 1)

/-- Compares floating numbers; what is none comes first. -/
def compareFloating (a b : Bytes) : Ordering :=
  let read (t : Bytes) : Option Floating :=
    (Floating.read 64 (t.dropWhile decimalAhead.isBlank)).map Prod.fst
  let rank : Option Floating → Nat
    | none => 0
    | some (.notANumber _) => 1
    | some (.infinite true) => 2
    | some (.finite ..) => 3
    | some (.infinite false) => 4
  let x := read a
  let y := read b
  match x, y with
  | some (.finite n p q), some (.finite m r s) =>
    let left : Int := if n then -(p * s : Nat) else (p * s : Nat)
    let right : Int := if m then -(r * q : Nat) else (r * q : Nat)
    compare left right
  | x, y => compare (rank x) (rank y)

/-- The rank of a byte in the name of a version. -/
def versionRank (c : Char) : Int :=
  if c.isDigit then 0
  else if c = '~' then -1
  else if c.isAlpha then c.toNat
  else c.toNat + 256

/-- Compares the names of versions, part by part. -/
def compareVersions : Nat → Bytes → Bytes → Ordering
  | 0, a, b => compareBytes a b
  | fuel + 1, a, b =>
    if a.isEmpty && b.isEmpty then .eq
    else
      let other (t : Bytes) : Bytes := t.takeWhile fun c => !c.isDigit
      let x := other a
      let y := other b
      let rec ranks : Nat → List Char → List Char → Ordering
        | 0, _, _ => .eq
        | n + 1, a, b =>
          let rank (t : List Char) : Int := (t.head?.map versionRank).getD 0
          (compare (rank a) (rank b)).then (ranks n (a.drop 1) (b.drop 1))
      match ranks (max x.length y.length) x y with
      | .eq =>
        let a := a.drop x.length
        let b := b.drop y.length
        let m := a.takeWhile Char.isDigit
        let n := b.takeWhile Char.isDigit
        let value (t : Bytes) : Bytes := t.dropWhile (· = '0')
        let order := (compare (value m).length (value n).length).then
          (compareBytes (value m) (value n))
        if order = .eq then compareVersions fuel (a.drop m.length) (b.drop n.length) else order
      | order => order

/-- How long a name is without the suffixes of its kind. -/
def stemLength (t : Bytes) : Nat :=
  let isSuffix (t : Bytes) : Bool :=
    match t with
    | '.' :: c :: rest =>
      (c.isAlpha || c = '~') && rest.all fun c => c.isAlphanum || c = '~'
    | _ => false
  let rec go : Nat → Nat → Nat
    | 0, n => n
    | fuel + 1, n =>
      let start := t.take n
      let last := (start.reverse.takeWhile (· ≠ '.')).length + 1
      if last < n && isSuffix (start.drop (n - last)) then go fuel (n - last) else n
  go t.length t.length

/-- Compares names as versions of files. -/
def compareNames (a b : Bytes) : Ordering :=
  let rank (t : Bytes) : Nat :=
    if t.isEmpty then 0
    else if t = ['.'] then 1
    else if t = ['.', '.'] then 2
    else if t.head? = some '.' then 3
    else 4
  match compare (rank a) (rank b) with
  | .eq =>
    let x := a.take (stemLength a)
    let y := b.take (stemLength b)
    (compareVersions (x.length + y.length + 1) x y).then
      (compareVersions (a.length + b.length + 1) a b)
  | order => order

/-! ## Keys -/

/-- How keys are compared. -/
structure KeyOrder where
  /-- A letter for a way of its own; none for byte by byte. -/
  way : Option Char
  folds : Bool
  onlyWords : Bool
  onlyShown : Bool
  reverse : Bool
  skipsStart : Bool
  skipsEnd : Bool
  deriving DecidableEq

/-- The order byte by byte. -/
def KeyOrder.plain : KeyOrder := ⟨none, false, false, false, false, false, false⟩

/-- The order with one more letter of its description. -/
def KeyOrder.add (o : KeyOrder) (start : Bool) (c : Char) : Option KeyOrder :=
  match c with
  | 'n' | 'g' | 'h' | 'M' | 'V' | 'R' => some { o with way := some c }
  | 'f' => some { o with folds := true }
  | 'd' => some { o with onlyWords := true }
  | 'i' => some { o with onlyShown := true }
  | 'r' => some { o with reverse := true }
  | 'b' => some (if start then { o with skipsStart := true } else { o with skipsEnd := true })
  | _ => none

/-- Compares two texts in an order. -/
def KeyOrder.compare (o : KeyOrder) (a b : Bytes) : Ordering :=
  let kept (t : Bytes) : Bytes :=
    let t := if o.onlyWords then t.filter fun c => c.isAlphanum || decimalAhead.isBlank c else t
    let t := if o.onlyShown then t.filter fun c => ' ' ≤ c && c ≤ '~' else t
    if o.folds then t.map Char.toUpper else t
  let order :=
    match o.way with
    | some 'n' => compareDecimals (decimalAhead a) (decimalAhead b)
    | some 'g' => compareFloating a b
    | some 'h' => compareScaled a b
    | some 'M' => Ord.compare (monthOf (kept a)) (monthOf (kept b))
    | some 'V' => compareNames (kept a) (kept b)
    | _ => compareBytes (kept a) (kept b)
  if o.reverse then order.swap else order

/-- A part of a line that it is ordered by: the field and byte where it starts, both counted from
zero, and where it ends; an end at byte zero is that of the field. -/
structure SortKey where
  field : Nat
  byte : Nat
  last : Option (Nat × Nat)
  order : KeyOrder

/-- What is left of a text behind so many fields. -/
def dropFields (separator : Option Char) : Nat → Bytes → Bytes
  | 0, t => t
  | n + 1, t =>
    match separator with
    | some c => dropFields separator n ((t.dropWhile (· ≠ c)).drop 1)
    | none =>
      dropFields separator n ((t.dropWhile decimalAhead.isBlank).dropWhile
        fun c => !decimalAhead.isBlank c)

/-- The part of a line that a key is. -/
def SortKey.part (k : SortKey) (separator : Option Char) (line : Bytes) : Bytes :=
  let start := dropFields separator k.field line
  let start := if k.order.skipsStart then start.dropWhile decimalAhead.isBlank else start
  let start := start.drop k.byte
  match k.last with
  | none => start
  | some (field, byte) =>
    let rest :=
      if byte = 0 then
        match separator with
        | some c => (dropFields separator field line).dropWhile (· ≠ c)
        | none => dropFields none (field + 1) line
      else
        let t := dropFields separator field line
        let t := if k.order.skipsEnd then t.dropWhile decimalAhead.isBlank else t
        t.drop byte
    start.take (start.length - rest.length)

/-- A count in a key, and what follows; or the words about what is none. -/
def keyCount (what : String) (t : Bytes) : Except String (Nat × Bytes) :=
  let digits := t.takeWhile Char.isDigit
  if digits.isEmpty then .error (what ++ ": invalid count at start of " ++ quotedText t)
  else .ok (State.digitsNumber digits, t.drop digits.length)

/-- The letters of an order at the start of a text, and what follows. -/
def keyLetters (start : Bool) (o : KeyOrder) : Bytes → KeyOrder × Bytes
  | c :: rest =>
    match o.add start c with
    | some o => keyLetters start o rest
    | none => (o, c :: rest)
  | [] => (o, [])

/-- The key that a text describes, or the words about what is wrong with it. -/
def keyOf (spec : Bytes) : Except String SortKey := do
  let wrong (why : String) : String := why ++ ": invalid field specification " ++ quotedText spec
  let (field, rest) ← keyCount "invalid number at field start" spec
  if field = 0 then .error (wrong "field number is zero")
  let (byte, rest) ←
    match rest with
    | '.' :: rest => keyCount "invalid number after '.'" rest
    | rest => .ok (1, rest)
  if byte = 0 then .error (wrong "character offset is zero")
  let (order, rest) := keyLetters true .plain rest
  match rest with
  | [] => .ok ⟨field - 1, byte - 1, none, order⟩
  | ',' :: rest =>
    let (last, rest) ← keyCount "invalid number after ','" rest
    if last = 0 then .error (wrong "field number is zero")
    let (lastByte, rest) ←
      match rest with
      | '.' :: rest => keyCount "invalid number after '.'" rest
      | rest => .ok (0, rest)
    let (order, rest) := keyLetters false order rest
    if rest.isEmpty then .ok ⟨field - 1, byte - 1, some (last - 1, lastByte), order⟩
    else .error (wrong "stray character in field spec")
  | _ => .error (wrong "stray character in field spec")

/-! ## Sorting -/

/-- How lines are put into order. -/
structure LineOrder where
  keys : List SortKey
  separator : Option Char
  /-- Whether lines with equal keys are further compared, and how. -/
  whole : Option Bool

/-- Compares two lines with their keys. -/
def LineOrder.compare (o : LineOrder) (a b : Bytes × List Bytes) : Ordering :=
  let rec byKeys : List SortKey → List Bytes → List Bytes → Ordering
    | k :: ks, x :: xs, y :: ys => (k.order.compare x y).then (byKeys ks xs ys)
    | _, _, _ => .eq
  match byKeys o.keys a.2 b.2, o.whole with
  | .eq, some reverse =>
    let order := compareBytes a.1 b.1
    if reverse then order.swap else order
  | order, _ => order

/-- A line with its keys. -/
def LineOrder.keyed (o : LineOrder) (line : Bytes) : Bytes × List Bytes :=
  (line, o.keys.map fun k => k.part o.separator line)

/-- The lines without those that are equal to the one before. -/
def withoutEquals (o : LineOrder) : List (Bytes × List Bytes) → List (Bytes × List Bytes)
  | a :: b :: rest =>
    if o.compare a b = .eq then withoutEquals o (a :: rest) else a :: withoutEquals o (b :: rest)
  | lines => lines
termination_by lines => lines.length

/-- The first line, with its number, that stands behind one that it should stand before. -/
def disorder? (o : LineOrder) (unique : Bool) : Nat → List (Bytes × List Bytes) →
    Option (Nat × Bytes)
  | n, a :: b :: rest =>
    let order := o.compare a b
    if order = .gt || unique && order = .eq then some (n + 1, b.1)
    else disorder? o unique (n + 1) (b :: rest)
  | _, _ => none

/-- The order that options ask for, or the words about what is wrong with them. -/
def lineOrderOf (w : Words) : Except String LineOrder := do
  let letters := w.options.flatMap fun o =>
    match o.1.toList with
    | [c] => if "bdfghiMnRrV".toList.contains c then [c] else []
    | _ => []
  let whole (o : KeyOrder) (c : Char) : KeyOrder :=
    if c = 'b' then { o with skipsStart := true, skipsEnd := true } else (o.add true c).getD o
  let general := letters.foldl whole .plain
  let general :=
    match (w.value? "sort").map shown with
    | some "numeric" => { general with way := some 'n' }
    | some "general-numeric" => { general with way := some 'g' }
    | some "human-numeric" => { general with way := some 'h' }
    | some "month" => { general with way := some 'M' }
    | some "version" => { general with way := some 'V' }
    | _ => general
  let specs := w.options.filterMap fun o => if o.1 = "k" then o.2 else none
  let keys ← specs.mapM keyOf
  let keys := keys.map fun k => if k.order = .plain then { k with order := general } else k
  let keys :=
    if keys.isEmpty && general ≠ .plain && general ≠ { KeyOrder.plain with reverse := true } then
      [⟨0, 0, none, general⟩]
    else keys
  let separator ←
    match w.value? "t" with
    | none => .ok none
    | some [c] => .ok (some c)
    | some ['\\', '0'] => .ok (some '\x00')
    | some [] => .error "empty tab"
    | some t => .error ("multi-character tab " ++ quotedText t)
  let stops := w.has "s" || w.has "u" && !keys.isEmpty
  return ⟨keys, separator, if stops then none else some general.reverse⟩

/-- Puts lines into order. -/
def sort : Tool := fun who args =>
  withWords who 2
    [flag 'b' "ignore-leading-blanks", valued 'S' "buffer-size", valued 'T' "temporary-directory",
      ⟨some 'c', "check", .nothing⟩, flag 'C' "check=quiet", flag 'd' "dictionary-order",
      flag 'f' "ignore-case", flag 'g' "general-numeric-sort", flag 'h' "human-numeric-sort",
      flag 'i' "ignore-nonprinting", valued 'k' "key", flag 'm' "merge", flag 'M' "month-sort",
      flag 'n' "numeric-sort", valued 'o' "output", flag 'r' "reverse", flag 'R' "random-sort",
      longOnly "sort" .argument, flag 's' "stable", valued 't' "field-separator",
      flag 'u' "unique", flag 'V' "version-sort", flag 'z' "zero-terminated",
      longOnly "parallel" .argument, longOnly "debug" .nothing] false args fun w => do
    match lineOrderOf w with
    | .error e => fail who 2 e
    | .ok o =>
      let ending := if w.has "z" then '\x00' else '\n'
      let names := if w.operands.isEmpty then [['-']] else w.operands
      let contents ← names.mapM fun n => do
        match ← openOperand n with
        | .error f =>
          complain who ("cannot read: " ++ named n ++ ": " ++ f.reason)
          leaveShell 2
        | .ok stream =>
          match ← drain stream with
          | .error f =>
            complain who ("read failed: " ++ named n ++ ": " ++ f.reason)
            leaveShell 2
          | .ok t => return t
      let lines := (contents.flatMap (pieces ending false)).map o.keyed
      if w.has "c" || w.has "C" then
        match disorder? o (w.has "u") 1 lines with
        | none => ends 0
        | some (n, line) =>
          if !w.has "C" then
            let name := (names.head?).getD ['-']
            say (who ++ ": ".toList ++ name ++ ':' :: (toString n).toList ++ ": disorder: ".toList ++
              line ++ ['\n'])
          ends 1
      else
        let sorted := lines.mergeSort fun a b => o.compare a b ≠ .gt
        let sorted := if w.has "u" then withoutEquals o sorted else sorted
        let out := sorted.flatMap fun l => l.1 ++ [ending]
        match w.value? "o" with
        | none => output who out 0
        | some path =>
          match ← openToWrite path false false false with
          | .error f => fail who 2 ("open failed: " ++ named path ++ ": " ++ f.reason)
          | .ok stream =>
            modify fun s =>
              match s.machine.write stream s.process out with
              | .ok machine => { s with machine }
              | .error _ => s
            ends 0

/-! ## Equal lines next to each other -/

/-- The part of a line that is compared. -/
def comparedPart (fields bytes : Nat) (most : Option Nat) (folds : Bool) (line : Bytes) : Bytes :=
  let t := (dropFields none fields line).drop bytes
  let t := match most with
    | some n => t.take n
    | none => t
  if folds then t.map Char.toLower else t

/-- Lines in groups of equal ones. -/
def groupsOf (part : Bytes → Bytes) (lines : List Bytes) : List (List Bytes) :=
  let step (groups : List (Bytes × List Bytes)) (line : Bytes) : List (Bytes × List Bytes) :=
    let p := part line
    match groups with
    | (q, ls) :: rest => if p = q then (q, line :: ls) :: rest else (p, [line]) :: groups
    | [] => [(p, [line])]
  ((lines.foldl step []).map fun g => g.2.reverse).reverse

/-- Writes lines without those that are equal to the one before. -/
def uniq : Tool := fun who args =>
  withWords who 1
    [flag 'c' "count", flag 'd' "repeated", flag 'D' "", longOnly "all-repeated" .perhaps,
      valued 'f' "skip-fields", longOnly "group" .perhaps, flag 'i' "ignore-case",
      valued 's' "skip-chars", flag 'u' "unique", valued 'w' "check-chars",
      flag 'z' "zero-terminated"] false args fun w => do
    let ending := if w.has "z" then '\x00' else '\n'
    let number (key what : String) : Act (Option Nat) := do
      match w.value? key with
      | none => return none
      | some t =>
        match number? t with
        | some n => return some n
        | none =>
          complain who (shown t ++ ": invalid number of " ++ what)
          leaveShell 1
    let fields ← number "f" "fields to skip"
    let bytes ← number "s" "bytes to skip"
    let most ← number "w" "bytes to compare"
    match w.operands with
    | _ :: _ :: extra :: _ => extraOperand who 1 extra
    | operands =>
      let name := (operands.head?).getD ['-']
      match ← openOperand name with
      | .error f => fail who 1 (named name ++ ": " ++ f.reason)
      | .ok stream =>
        match ← drain stream with
        | .error f => fail who 1 ("error reading " ++ quoted name ++ ": " ++ f.reason)
        | .ok t =>
          let part := comparedPart (fields.getD 0) (bytes.getD 0) most (w.has "i")
          let groups := groupsOf part (pieces ending false t)
          let line (l : Bytes) : Bytes := l ++ [ending]
          let out :=
            if w.has "group" then
              [ending].intercalate (groups.map fun g => g.flatMap line)
            else
              groups.flatMap fun g =>
                let repeated := g.length > 1
                if w.has "D" || w.has "all-repeated" then if repeated then g.flatMap line else []
                else if w.has "d" && !repeated || w.has "u" && repeated then []
                else
                  let count := if w.has "c" then padNumber 7 g.length ++ [' '] else []
                  count ++ line ((g.head?).getD [])
          match operands with
          | [_, target] =>
            match ← openToWrite target false false false with
            | .error f => fail who 1 (named target ++ ": " ++ f.reason)
            | .ok stream =>
              modify fun s =>
                match s.machine.write stream s.process out with
                | .ok machine => { s with machine }
                | .error _ => s
              ends 0
          | _ => output who out 0

/-! ## Lines of two files -/

/-- Which file a line is in: the first one, the second one or both. -/
inductive Side where
  | first
  | second
  | both
  deriving DecidableEq

/-- The lines of two files in order, with where they are. -/
def sides : Nat → List Bytes → List Bytes → List (Side × Bytes)
  | 0, _, _ => []
  | _ + 1, [], [] => []
  | fuel + 1, a :: as, [] => (.first, a) :: sides fuel as []
  | fuel + 1, [], b :: bs => (.second, b) :: sides fuel [] bs
  | fuel + 1, a :: as, b :: bs =>
    match compareBytes a b with
    | .lt => (.first, a) :: sides fuel as (b :: bs)
    | .gt => (.second, b) :: sides fuel (a :: as) bs
    | .eq => (.both, a) :: sides fuel as bs

/-- Whether lines are in order. -/
def inOrder (lines : List Bytes) : Bool :=
  (lines.zip (lines.drop 1)).all fun (a, b) => compareBytes a b ≠ .gt

/-- Writes the lines of two files in columns by where they are. -/
def comm : Tool := fun who args =>
  withWords who 1
    [flag '1' "", flag '2' "", flag '3' "", longOnly "check-order" .nothing,
      longOnly "nocheck-order" .nothing, longOnly "output-delimiter" .argument,
      longOnly "total" .nothing, flag 'z' "zero-terminated"] false args fun w => do
    match w.operands with
    | [] => missesOperand who 1
    | [a] => misused who 1 ("missing operand after " ++ quotedText a)
    | _ :: _ :: extra :: _ => extraOperand who 1 extra
    | [a, b] =>
      let ending := if w.has "z" then '\x00' else '\n'
      let read (n : Bytes) : Act (List Bytes) := do
        match ← contentOf n with
        | .ok t => return pieces ending false t
        | .error f =>
          complain who (named n ++ ": " ++ f.reason)
          leaveShell 1
      let as ← read a
      let bs ← read b
      let found := sides (as.length + bs.length + 1) as bs
      let gap := (w.value? "output-delimiter").getD ['\t']
      let second := if w.has "1" then [] else gap
      let third := second ++ (if w.has "2" then [] else gap)
      let out := found.flatMap fun (side, line) =>
        match side with
        | .first => if w.has "1" then [] else line ++ [ending]
        | .second => if w.has "2" then [] else second ++ line ++ [ending]
        | .both => if w.has "3" then [] else third ++ line ++ [ending]
      let count (side : Side) : Bytes := (toString (found.countP (·.1 = side))).toList
      let total :=
        if w.has "total" then
          gap.intercalate [count .first, count .second, count .both, "total".toList] ++ [ending]
        else []
      put who (out ++ total)
      let unpaired := found.any (·.1 ≠ .both)
      let wrong := [(1, as), (2, bs)].filter fun (_, ls) => !inOrder ls
      if !w.has "nocheck-order" && !wrong.isEmpty && (unpaired || w.has "check-order") then
        wrong.forM fun (n, _) =>
          complain who ("file " ++ toString n ++ " is not in sorted order")
        if w.has "check-order" then ends 1
        else fail who 1 "input is not in sorted order"
      else ends 0

/-! ## Lines that have a field in common -/

/-- The fields of a line. -/
def fieldsOfLine (separator : Option Char) (line : Bytes) : List Bytes :=
  match separator with
  | some c => pieces c false (line ++ [c])
  | none => (pieces ' ' false (line.map fun c => if c = '\t' then ' ' else c)).filter (!·.isEmpty)

/-- A line with the field that it has in common with others. -/
structure Joinable where
  key : Bytes
  fields : List Bytes

/-- How lines are joined. -/
structure Joining where
  separator : Option Char
  folds : Bool
  filler : Bytes
  /-- Which fields are written: those of a file, by its number, or the common one, if it is zero. -/
  format : Option (List (Nat × Nat))
  /-- The places of the common field, counted from one. -/
  first : Nat
  second : Nat

/-- The line that is written for two lines that have a field in common, or one that has none. -/
def Joining.line (j : Joining) (a b : Option Joinable) : Bytes :=
  let sep := [j.separator.getD ' ']
  let key := ((a <|> b).map Joinable.key).getD []
  let field (l : Option Joinable) (n : Nat) : Bytes :=
    match (l.bind fun l => l.fields[n - 1]?) with
    | some t => if t.isEmpty then j.filler else t
    | none => j.filler
  let others (l : Option Joinable) (n : Nat) : List Bytes :=
    match l with
    | some l => l.fields.eraseIdx (n - 1)
    | none => []
  let parts :=
    match j.format with
    | none => key :: (others a j.first ++ others b j.second)
    | some specs => specs.map fun (file, n) =>
        if file = 0 then key else if file = 1 then field a n else field b n
  sep.intercalate parts ++ ['\n']

/-- The lines that two files have in common, and those of either one that is asked for. -/
def Joining.lines (j : Joining) (wants : Side → Bool) : Nat → List Joinable → List Joinable →
    List Bytes
  | 0, _, _ => []
  | fuel + 1, as, bs =>
    let alone (side : Side) (line : Bytes) (rest : List Bytes) : List Bytes :=
      if wants side then line :: rest else rest
    match as, bs with
    | [], [] => []
    | a :: as, [] => alone .first (j.line (some a) none) (lines j wants fuel as [])
    | [], b :: bs => alone .second (j.line none (some b)) (lines j wants fuel [] bs)
    | a :: as, b :: bs =>
      let fold (t : Bytes) : Bytes := if j.folds then t.map Char.toLower else t
      match compareBytes (fold a.key) (fold b.key) with
      | .lt => alone .first (j.line (some a) none) (lines j wants fuel as (b :: bs))
      | .gt => alone .second (j.line none (some b)) (lines j wants fuel (a :: as) bs)
      | .eq =>
        let same (l : Joinable) : Bool := fold l.key = fold a.key
        let left := (a :: as).takeWhile same
        let right := (b :: bs).takeWhile same
        let pairs := left.flatMap fun x => right.map fun y => j.line (some x) (some y)
        (if wants .both then pairs else []) ++
          lines j wants fuel ((a :: as).drop left.length) ((b :: bs).drop right.length)

/-- The fields that are written, as they are asked for. -/
def joinFormat? (t : Bytes) : Option (List (Nat × Nat)) :=
  let words := (fieldsOfLine none (t.map fun c => if c = ',' then ' ' else c))
  words.mapM fun w =>
    match w with
    | ['0'] => some (0, 0)
    | '1' :: '.' :: n => (number? n).map (1, ·)
    | '2' :: '.' :: n => (number? n).map (2, ·)
    | _ => none

/-- Joins the lines of two files that have a field in common. -/
def join : Tool := fun who args =>
  withWords who 1
    [valued 'a' "", valued 'e' "", flag 'i' "ignore-case", valued 'j' "", valued 'o' "",
      valued 't' "", valued 'v' "", valued '1' "", valued '2' "", flag 'z' "zero-terminated",
      longOnly "check-order" .nothing, longOnly "nocheck-order" .nothing,
      longOnly "header" .nothing] false args fun w => do
    match w.operands with
    | [] => missesOperand who 1
    | [a] => misused who 1 ("missing operand after " ++ quotedText a)
    | _ :: _ :: extra :: _ => extraOperand who 1 extra
    | [a, b] =>
      let read (n : Bytes) : Act (List Bytes) := do
        match ← contentOf n with
        | .ok t => return linesOf t
        | .error f =>
          complain who (named n ++ ": " ++ f.reason)
          leaveShell 1
      let place (key : String) : Nat :=
        ((w.value? key <|> w.value? "j").bind number?).getD 1
      let j : Joining :=
        { separator := (w.value? "t").bind List.head?, folds := w.has "i"
          filler := (w.value? "e").getD [], format := (w.value? "o").bind joinFormat?
          first := place "1", second := place "2" }
      let ask (key : String) (n : Char) : Bool := w.options.any fun o => o.1 = key && o.2 = some [n]
      let wants (side : Side) : Bool :=
        match side with
        | .both => !w.has "v"
        | .first => ask "a" '1' || ask "v" '1'
        | .second => ask "a" '2' || ask "v" '2'
      let joinable (n : Nat) (line : Bytes) : Joinable :=
        let fields := fieldsOfLine j.separator line
        ⟨(fields[n - 1]?).getD [], fields⟩
      let as := (← read a).map (joinable j.first)
      let bs := (← read b).map (joinable j.second)
      output who (j.lines wants (as.length + bs.length + 1) as bs).flatten 0

end Provision.Shell.Tool
