import Provision.Shell.Glob
import Provision.Shell.Regex
import Provision.Shell.Tool.File
import Provision.Shell.Tool.Order
import Provision.Shell.Tool.Starting

/-!
# Programs that look at files

The names in directories, what is known of files, and the search for files of a kind.
-/

namespace Provision.Shell.Tool

/-! ## What is known of a file -/

/-- A file with its path and its place. -/
structure Located where
  path : Bytes
  place : Place
  entry : Entry FileRef

namespace Located

/-- The node of a regular file. -/
def node? (f : Located) (m : Machine) : Option Node :=
  match f.entry with
  | .file (.regular n) => m.nodes[n]?
  | _ => none

/-- The size of a file. -/
def size (f : Located) (m : Machine) : Nat :=
  match f.entry with
  | .directory => 4096
  | .file (.regular n) => ((m.nodes[n]?).map Node.size).getD 0
  | .file (.link target) => target.length
  | .file (.program _) => 40000
  | .file (.device _) => 0

/-- The blocks of 1024 bytes that a file takes. -/
def blocks (f : Located) (m : Machine) : Nat :=
  match f.entry with
  | .directory => 4
  | .file (.link _) | .file (.device _) => 0
  | _ => (f.size m + 4095) / 4096 * 4

/-- The letter for the kind of a file. -/
def letter (f : Located) : Char :=
  match f.entry with
  | .directory => 'd'
  | .file (.link _) => 'l'
  | .file (.device _) => 'c'
  | _ => '-'

/-- The mode of a file as it is shown. -/
def modeLetters (f : Located) (m : Machine) : Bytes :=
  f.letter :: modeText (m.modeOf f.place f.entry)

/-- How many names a file has. -/
def names (f : Located) (m : Machine) : Nat :=
  match f.entry with
  | .directory =>
    2 + (m.files.names f.place).countP fun n =>
      match m.files.entryAt (f.place ++ [n]) with
      | some .directory => true
      | _ => false
  | .file (.regular n) => m.namesOf n
  | _ => 1

/-- A number that no other file has. -/
def number (f : Located) (m : Machine) : Nat :=
  match f.entry with
  | .file (.regular n) => 100000 + n
  | _ => 200000 + (m.files.entries.findIdx? (·.1 = f.place)).getD 0

/-- When a file was changed, in seconds since 1970. -/
def seconds (f : Located) (m : Machine) : Int :=
  State.epoch + ((f.node? m).map Node.stamp).getD 0

/-- When a file was changed, so that two changes are never at once. -/
def changed (f : Located) (m : Machine) : Int × Nat :=
  ((f.node? m).map fun n => (n.stamp, n.changed)).getD (0, 0)

/-- The kind of a file in words. -/
def kind (f : Located) (m : Machine) : String :=
  match f.entry with
  | .directory => "directory"
  | .file (.link _) => "symbolic link"
  | .file (.device _) => "character special file"
  | .file (.program _) => "regular file"
  | .file (.regular _) => if f.size m = 0 then "regular empty file" else "regular file"

/-- The name of a file with where it leads. -/
def nameAndTarget (f : Located) : String :=
  match f.entry with
  | .file (.link target) => quoted f.path ++ " -> " ++ quoted target
  | _ => quoted f.path

end Located

/-! ## Listing directories -/

/-- How names are listed. -/
structure Directories where
  hidden : Bool
  dots : Bool
  long : Bool
  owner : Bool
  group : Bool
  numeric : Bool
  quotes : Bytes → Bytes
  human : Bool
  number : Bool
  sizes : Bool
  across : Option String

/-- A size with a letter for its power. -/
def humanSize (n : Nat) : String :=
  let rec go : Nat → Nat → List Char → String
    | 0, n, _ => toString n
    | _, n, [] => toString n
    | fuel + 1, n, c :: cs =>
      if n < 1024 * 10 then
        let tenths := (n * 10 + 1023) / 1024
        if tenths < 100 then toString (tenths / 10) ++ "." ++ toString (tenths % 10) ++ String.singleton c
        else toString ((n + 1023) / 1024) ++ String.singleton c
      else if n < 1024 * 1024 then toString ((n + 1023) / 1024) ++ String.singleton c
      else go fuel (n / 1024) cs
  if n < 1024 then toString n else go 8 n "KMGTPE".toList

/-- The mark behind a name. -/
def markOf (m : Machine) (all : Bool) (f : Located) : Bytes :=
  match f.entry with
  | .directory => ['/']
  | .file (.link _) => if all then ['@'] else []
  | e => if all && m.modeOf f.place e &&& 0o111 ≠ 0 && f.letter = '-' then ['*'] else []

/-- The lines of a listing of some files. -/
def Directories.lines (d : Directories) (m : Machine) (now : Int) (markAll : Option Bool)
    (fs : List Located) : Bytes :=
  let mark (f : Located) : Bytes :=
    match markAll with
    | some all => markOf m all f
    | none => []
  let start (f : Located) : Bytes :=
    let width (value : Located → Nat) : Nat := fs.foldl (fun n f => max n (toString (value f)).length) 0
    (if d.number then padNumber (width fun f => f.number m) (f.number m) ++ [' '] else []) ++
      (if d.sizes then padNumber (width fun f => f.blocks m) (f.blocks m) ++ [' '] else [])
  let name (f : Located) : Bytes := start f ++ d.quotes f.path ++ mark f
  if d.long then
    let sizeText (f : Located) : String :=
      if d.human then humanSize (f.size m) else toString (f.size m)
    let linkWidth := fs.foldl (fun n f => max n (toString (f.names m)).length) 0
    let sizeWidth := fs.foldl (fun n f => max n (sizeText f).length) 0
    let who : String := if d.numeric then "0" else "root"
    fs.flatMap fun f =>
      let moment := Moment.ofSeconds (f.seconds m)
      let recent : Bool := now - 15778476 < f.seconds m && f.seconds m ≤ now
      let stamp := moment.text (if recent then "%b %e %H:%M" else "%b %e  %Y").toList
      let target : Bytes :=
        match f.entry with
        | .file (.link t) => " -> ".toList ++ t
        | _ => []
      start f ++ f.modeLetters m ++ ' ' :: padNumber linkWidth (f.names m) ++
        (if d.owner then ' ' :: who.toList else []) ++ (if d.group then ' ' :: who.toList else []) ++
        ' ' :: (padLeft sizeWidth (sizeText f)).toList ++ ' ' :: stamp ++
        ' ' :: d.quotes f.path ++ (if target.isEmpty then mark f else target) ++ ['\n']
  else
    match d.across with
    | some between => if fs.isEmpty then [] else between.toList.intercalate (fs.map name) ++ ['\n']
    | none => unlines (fs.map name)

/-- Lists directories and files. -/
def ls : Tool := fun who args =>
  withWords who 2
    [flag 'a' "all", flag 'A' "almost-all", flag 'b' "escape", flag 'B' "ignore-backups", flag 'c' "",
      flag 'C' "", longOnly "color" .perhaps, flag 'd' "directory", flag 'f' "", flag 'F' "",
      longOnly "classify" .perhaps, longOnly "file-type" .nothing, flag 'g' "", flag 'G' "no-group",
      longOnly "group-directories-first" .nothing, flag 'h' "human-readable", flag 'H' "",
      flag 'i' "inode", valued 'I' "ignore", flag 'k' "kibibytes", flag 'l' "",
      flag 'L' "dereference", flag 'm' "", flag 'n' "numeric-uid-gid", flag 'N' "literal", flag 'o' "",
      flag 'p' "", flag 'q' "hide-control-chars", flag 'Q' "quote-name", flag 'r' "reverse",
      flag 'R' "recursive", flag 's' "size", flag 'S' "", longOnly "sort" .argument, flag 't' "",
      valued 'T' "tabsize", longOnly "time" .argument, longOnly "time-style" .argument, flag 'u' "",
      flag 'U' "", flag 'v' "", valued 'w' "width", flag 'x' "", flag 'X' "", flag 'Z' "context",
      flag '1' "", longOnly "full-time" .nothing, longOnly "indicator-style" .argument,
      longOnly "format" .argument, longOnly "hyperlink" .perhaps, longOnly "si" .nothing,
      longOnly "show-control-chars" .nothing, longOnly "author" .nothing,
      longOnly "quoting-style" .argument, longOnly "block-size" .argument, longOnly "zero" .nothing,
      longOnly "dired" .nothing, longOnly "hide" .argument] false args fun w => do
    let s ← get
    let m := s.machine
    let markAll : Option Bool :=
      if w.has "F" || w.has "classify" then some true
      else if w.has "p" then some false
      else none
    let sortBy := (w.value? "sort").map shown
    let byTime := w.has "t" || sortBy = some "time"
    let bySize := w.has "S" || sortBy = some "size"
    let byVersion := w.has "v" || sortBy = some "version"
    let byKind := w.has "X" || sortBy = some "extension"
    let unsorted := w.has "U" || w.has "f" || sortBy = some "none"
    let extension (t : Bytes) : Bytes :=
      if t.contains '.' then (t.reverse.takeWhile (· ≠ '.')).reverse else []
    let order (a b : Located) : Ordering :=
      let byName := compareBytes a.path b.path
      if byTime then
        let x := a.changed m
        let y := b.changed m
        ((Ord.compare y.1 x.1).then (Ord.compare y.2 x.2)).then byName
      else if bySize then (Ord.compare (b.size m) (a.size m)).then byName
      else if byVersion then compareNames a.path b.path
      else if byKind then (compareBytes (extension a.path) (extension b.path)).then byName
      else byName
    let ordered (fs : List Located) : List Located :=
      let sorted := if unsorted then fs else fs.mergeSort fun a b => order a b ≠ .gt
      let sorted := if w.has "r" then sorted.reverse else sorted
      if w.has "group-directories-first" then
        (sorted.filter fun f => isDirectory f.entry) ++
          sorted.filter fun f => !isDirectory f.entry
      else sorted
    let long := w.has "l" || w.has "g" || w.has "o" || w.has "n" || w.has "full-time"
    let d : Directories :=
      { hidden := w.has "a" || w.has "A" || w.has "f", dots := w.has "a" || w.has "f"
        long := long && (w.last? ["l", "g", "o", "n", "1", "C", "x", "m"]).any fun k =>
          !(["C", "x", "m"].contains k)
        owner := !w.has "g", group := !w.has "o" && !w.has "G", numeric := w.has "n"
        quotes := fun t =>
          if w.has "Q" then
            '"' :: t.flatMap (fun c => if c = '"' || c = '\\' then ['\\', c]
              else if c = '\n' then ['\\', 'n'] else [c]) ++ ['"']
          else if w.has "b" then
            t.flatMap fun c => if c = ' ' || c = '\\' then ['\\', c]
              else if c = '\n' then ['\\', 'n'] else if c = '\t' then ['\\', 't'] else [c]
          else t
        human := w.has "h", number := w.has "i", sizes := w.has "s"
        across := match w.last? ["1", "m", "C", "x", "l"] with
          | some "m" => some ", "
          | some "C" | some "x" => some "  "
          | _ => none }
    let names := if w.operands.isEmpty then [['.']] else w.operands
    let follows := w.has "L" || w.has "H"
    let stat (p : Bytes) : Except FileFault Located := do
      let (place, e) ← itself s p
      match e with
      | .file (.link _) =>
        let toDirectory := leadsToDirectory s p
        if follows || (toDirectory && !long && !w.has "d" && markAll ≠ some true) then
          match reached s p with
          | .ok (place, e) => .ok ⟨p, place, e⟩
          | .error f => if follows then .error f else .ok ⟨p, place, e⟩
        else .ok ⟨p, place, e⟩
      | e => .ok ⟨p, place, e⟩
    let found ← names.mapM fun p => do
      match stat p with
      | .ok f => return some f
      | .error f =>
        complain who ("cannot access " ++ quoted p ++ ": " ++ f.reason)
        return none
    let fine := found.all Option.isSome
    let found := found.filterMap id
    let (folders, files) :=
      if w.has "d" then ([], found)
      else (found.filter (fun f => isDirectory f.entry), found.filter fun f => !isDirectory f.entry)
    let now := s.now
    put who (d.lines m now markAll (ordered files))
    let children (f : Located) : List Located :=
      let own := (m.files.names f.place).reverse.filterMap fun n =>
        let place := f.place ++ [n]
        (m.files.entryAt place).map fun e =>
          match follows, e with
          | true, .file (.link _) =>
            match reached s (below f.path n) with
            | .ok (place, e) => ⟨n, place, e⟩
            | .error _ => ⟨n, place, e⟩
          | _, e => ⟨n, place, e⟩
      let backup (t : Bytes) : Bool := w.has "B" && t.getLast? = some '~'
      let ignored (t : Bytes) : Bool :=
        (w.value? "I").any fun p =>
          (glob false (p.map fun c => ⟨c, false⟩)).fits false t
      let shownOwn := own.filter fun f =>
        (d.hidden || f.path.head? ≠ some '.') && !backup f.path && !ignored f.path
      let dots : List Located :=
        if d.dots then [⟨['.'], f.place, .directory⟩, ⟨['.', '.'], f.place.dropLast, .directory⟩]
        else []
      ordered (dots ++ shownOwn)
    let headed := w.has "R" || found.length > 1 || !fine && names.length > 1
    let rec list : Nat → Bool → List Located → Act Unit
      | 0, _, _ => pure ()
      | _ + 1, _, [] => pure ()
      | fuel + 1, isFirst, f :: rest => do
        let inside := children f
        let heading : Bytes :=
          if headed then (if isFirst then [] else ['\n']) ++ f.path ++ [':', '\n'] else []
        let total : Bytes :=
          if d.long || d.sizes then
            let n := (inside.map fun f => f.blocks m).foldl (· + ·) 0
            "total ".toList ++
              (if d.human then
                (if n = 0 then "0" else humanSize (n * 1024)).toList else (toString n).toList) ++
              ['\n']
          else []
        put who (heading ++ total ++ d.lines m now markAll inside)
        let deeper : List Located :=
          if w.has "R" then
            (inside.filter fun c => isDirectory c.entry && c.path ≠ ['.'] && c.path ≠ ['.', '.']).map
              fun c => { c with path := below f.path c.path }
          else []
        list fuel false (deeper ++ rest)
    list 20000 files.isEmpty (ordered folders)
    ends (if fine then 0 else 2)

/-! ## Telling what is known -/

/-- A text of a width. -/
def laidOut (flags : Bytes) (width : Nat) (t : Bytes) : Bytes :=
  let gap := width - t.length
  if flags.contains '-' then t ++ List.replicate gap ' '
  else if flags.contains '0' then List.replicate gap '0' ++ t
  else List.replicate gap ' ' ++ t

/-- What a letter of a format tells of a file. -/
def fileField (m : Machine) (f : Located) (c : Char) : Bytes :=
  let mode := m.modeOf f.place f.entry
  let number (n : Nat) : Bytes := (toString n).toList
  let kindBits : Nat :=
    match f.letter with
    | 'd' => 0o040000
    | 'l' => 0o120000
    | 'c' => 0o020000
    | _ => 0o100000
  let time (seconds : Int) : Bytes :=
    (Moment.ofSeconds seconds).text "%Y-%m-%d %H:%M:%S.%N %z".toList
  match c with
  | 'n' => f.path
  | 'N' => f.nameAndTarget.toList
  | 's' => number (f.size m)
  | 'F' => (f.kind m).toList
  | 'a' => octalText 1 mode
  | 'A' => f.modeLetters m
  | 'u' | 'g' => ['0']
  | 'U' | 'G' => "root".toList
  | 'h' => number (f.names m)
  | 'i' => number (f.number m)
  | 'b' => number (2 * f.blocks m)
  | 'B' => "512".toList
  | 'o' => "4096".toList
  | 'f' => Nat.toDigits 16 (kindBits + mode)
  | 'd' => "64".toList
  | 'D' => "40".toList
  | 't' | 'T' | 'r' | 'R' => ['0']
  | 'X' | 'Y' | 'Z' | 'W' => (toString (f.seconds m)).toList
  | 'x' | 'y' | 'z' | 'w' => time (f.seconds m)
  | 'm' => ['/']
  | _ => ['?']

/-- What a format tells of a file. -/
def fileText (m : Machine) (f : Located) (escapes : Bool) : Nat → Bytes → Bytes
  | 0, _ => []
  | _ + 1, [] => []
  | fuel + 1, '%' :: rest =>
    let flags := rest.takeWhile "-0+ #'".toList.contains
    let rest := rest.drop flags.length
    let width := rest.takeWhile Char.isDigit
    let rest := rest.drop width.length
    match rest with
    | '%' :: rest => '%' :: fileText m f escapes fuel rest
    | c :: rest =>
      laidOut flags (State.digitsNumber width) (fileField m f c) ++ fileText m f escapes fuel rest
    | [] => ['%']
  | fuel + 1, '\\' :: c :: rest =>
    if escapes then
      let known := [('n', '\n'), ('t', '\t'), ('\\', '\\'), ('0', '\x00'), ('r', '\r'), ('"', '"')]
      match known.lookup c with
      | some d => d :: fileText m f escapes fuel rest
      | none => '\\' :: c :: fileText m f escapes fuel rest
    else '\\' :: c :: fileText m f escapes fuel rest
  | fuel + 1, c :: rest => c :: fileText m f escapes fuel rest

/-- Tells what is known of files. -/
def stat : Tool := fun who args =>
  withWords who 1
    [flag 'L' "dereference", flag 'f' "file-system", valued 'c' "format", longOnly "printf" .argument,
      flag 't' "terse", longOnly "cached" .argument] false args fun w => do
    if w.operands.isEmpty then missesOperand who 1
    else
      let usual := "  File: %N\n  Size: %-10s\tBlocks: %-10b IO Block: %-6o %F\n" ++
        "Device: %d\tInode: %-11i Links: %h\n" ++
        "Access: (%04a/%10A)  Uid: (%5u/%8U)   Gid: (%5g/%8G)\nAccess: %x\nModify: %y\nChange: %z\n" ++
        " Birth: %w\n"
      let results ← w.operands.mapM fun p => do
        let s ← get
        match if w.has "L" then reached s p else itself s p with
        | .error f =>
          complain who ("cannot statx " ++ quoted p ++ ": " ++ f.reason)
          return false
        | .ok (place, e) =>
          let f : Located := ⟨p, place, e⟩
          let write (escapes : Bool) (format ending : Bytes) : Act Unit :=
            put who (fileText s.machine f escapes (format.length + 1) format ++ ending)
          match w.value? "c", w.value? "printf" with
          | some format, _ => write false format ['\n']
          | none, some format => write true format []
          | none, none =>
            if w.has "t" then
              write false "%n %s %b %f %u %g %d %i %h %t %T %X %Y %Z %W %o".toList ['\n']
            else write false usual.toList []
          return true
      ends (statusOf (results.all id))

/-! ## Searching -/

/-- What is asked of a file that is searched for. -/
inductive Seek where
  | always
  | never
  | name (p : Pattern) (folded : Bool)
  | path (p : Pattern) (folded : Bool)
  | kinds (letters : Bytes)
  | empty
  | newer (than : Int × Nat)
  /-- A size in units: less, equal or more. -/
  | size (sign : Ordering) (count unit : Nat)
  | mode (any : Option Bool) (bits : Nat)
  | links (sign : Ordering) (count : Nat)
  /-- A time in minutes or days ago. -/
  | age (sign : Ordering) (count unit : Nat)
  | same (place : Place)
  | print (ending : Char)
  | format (text : Bytes)
  | list
  | delete
  | prune
  | quit
  | run (words : List Bytes) (inside asks : Bool)
  | gather (number : Nat) (inside : Bool)
  | negation (e : Seek)
  | both (a b : Seek)
  | either (a b : Seek)
  | sequence (a b : Seek)

/-- Whether there is something in a search that acts on what is found. -/
def Seek.acts : Seek → Bool
  | print _ | format _ | list | delete | quit | run .. | gather .. => true
  | negation e => e.acts
  | both a b | either a b | sequence a b => a.acts || b.acts
  | _ => false

/-- How a search goes. -/
structure Seeking where
  least : Nat
  most : Option Nat
  childrenFirst : Bool
  follows : Bool
  /-- Commands that run once for all that is found, with their words. -/
  gathers : List (List Bytes)

/-- A reader of the expression of a search. -/
abbrev SeekReader := StateT (List Bytes × Seeking) (Except String)

/-- The next word, which an option needs. -/
def seekArgument (option : Bytes) : SeekReader Bytes := do
  let (ws, g) ← get
  match ws with
  | w :: rest =>
    set (rest, g)
    return w
  | [] => throw ("missing argument to \x60" ++ shown option ++ "'")

/-- A count with a sign for less or more. -/
def signedCount? (t : Bytes) : Option (Ordering × Bytes) :=
  match t with
  | '+' :: rest => some (.gt, rest)
  | '-' :: rest => some (.lt, rest)
  | rest => some (.eq, rest)

/-- The words of a command up to its end. -/
def seekCommand (option : Bytes) : SeekReader (List Bytes × Bool) := do
  let (ws, g) ← get
  let rec go (begun : List Bytes) : List Bytes → Option (List Bytes × Bool × List Bytes)
    | [] => none
    | w :: rest =>
      if w = [';'] then some (begun.reverse, false, rest)
      else if w = ['+'] && begun.head? = some ['\x7b', '\x7d'] then
        some (begun.reverse.dropLast, true, rest)
      else go (w :: begun) rest
  match go [] ws with
  | some (words, gathers, rest) =>
    if words.isEmpty then throw ("missing argument to \x60" ++ shown option ++ "'")
    else
      set (rest, g)
      return (words, gathers)
  | none => throw ("missing argument to \x60" ++ shown option ++ "'")

/-- A pattern of names. -/
def namePattern (t : Bytes) : Pattern := glob false (t.map fun c => ⟨c, false⟩)

/-- A number that an option needs. -/
def seekNumber (option t : Bytes) : SeekReader (Ordering × Nat) := do
  match signedCount? t with
  | some (sign, ds) =>
    match number? ds with
    | some n => return (sign, n)
    | none => throw ("invalid argument \x60" ++ shown t ++ "' to \x60" ++ shown option ++ "'")
  | none => throw ("invalid argument \x60" ++ shown t ++ "' to \x60" ++ shown option ++ "'")

/-- A single test or action. -/
def seekTerm (s : State) (option : Bytes) : SeekReader Seek := do
  let argument := seekArgument option
  match shown option with
  | "-name" => return .name (namePattern (← argument)) false
  | "-iname" => return .name (namePattern (← argument)) true
  | "-path" | "-wholename" => return .path (namePattern (← argument)) false
  | "-ipath" | "-iwholename" => return .path (namePattern (← argument)) true
  | "-regex" | "-iregex" =>
    let re ← argument
    match regexOf Regex.basic (re.map fun c => ⟨c, false⟩) with
    | .ok (p, _) => return .path p (option = "-iregex".toList)
    | .error f => throw (f.message)
  | "-type" | "-xtype" =>
    let t ← argument
    let letters := t.filter (· ≠ ',')
    match letters.find? fun c => !"bcdpfls".toList.contains c with
    | some c => throw ("Unknown argument to -type: " ++ String.singleton c)
    | none => return .kinds letters
  | "-empty" => return .empty
  | "-true" => return .always
  | "-false" => return .never
  | "-newer" | "-anewer" | "-cnewer" =>
    let path ← argument
    match reached s path with
    | .ok (place, e) => return .newer ((Located.mk path place e).changed s.machine)
    | .error f => throw (quoted path ++ ": " ++ f.reason)
  | "-samefile" =>
    let path ← argument
    match reached s path with
    | .ok (place, _) => return .same place
    | .error f => throw (quoted path ++ ": " ++ f.reason)
  | "-size" =>
    let t ← argument
    let unit := match t.getLast? with
      | some 'c' => some 1
      | some 'w' => some 2
      | some 'b' => some 512
      | some 'k' => some 1024
      | some 'M' => some (1024 * 1024)
      | some 'G' => some (1024 * 1024 * 1024)
      | _ => none
    let (sign, ds) := (signedCount? (if unit.isSome then t.dropLast else t)).getD (.eq, [])
    match number? ds with
    | some n => return .size sign n (unit.getD 512)
    | none => throw ("Invalid argument \x60" ++ shown t ++ "' to -size")
  | "-links" =>
    let (sign, n) ← seekNumber option (← argument)
    return .links sign n
  | "-mtime" | "-atime" | "-ctime" =>
    let (sign, n) ← seekNumber option (← argument)
    return .age sign n 86400
  | "-mmin" | "-amin" | "-cmin" =>
    let (sign, n) ← seekNumber option (← argument)
    return .age sign n 60
  | "-perm" =>
    let t ← argument
    let (any, spec) : Option Bool × Bytes :=
      match t with
      | '-' :: rest => (some false, rest)
      | '/' :: rest => (some true, rest)
      | rest => (none, rest)
    match modeChange? spec with
    | some c => return .mode any (c.apply 0 false 0)
    | none => throw ("invalid mode " ++ quoted t)
  | "-user" | "-group" | "-uid" | "-gid" =>
    let t ← argument
    return if t = "root".toList || t = ['0'] then .always else .never
  | "-readable" | "-writable" => return .always
  | "-executable" => return .either (.mode (some true) 0o111) (.kinds ['d'])
  | "-print" => return .print '\n'
  | "-print0" => return .print '\x00'
  | "-printf" => return .format (← argument)
  | "-ls" => return .list
  | "-delete" =>
    modify fun (ws, g) => (ws, { g with childrenFirst := true })
    return .delete
  | "-prune" => return .prune
  | "-quit" => return .quit
  | "-exec" | "-execdir" | "-ok" | "-okdir" =>
    let inside := option = "-execdir".toList || option = "-okdir".toList
    let asks := option = "-ok".toList || option = "-okdir".toList
    let (words, gathers) ← seekCommand option
    if gathers then
      let (ws, g) ← get
      set (ws, { g with gathers := g.gathers ++ [words] })
      return .gather g.gathers.length inside
    else return .run words inside asks
  | "-maxdepth" | "-mindepth" =>
    let t ← argument
    match number? t with
    | some n =>
      modify fun (ws, g) =>
        (ws, if option = "-maxdepth".toList then { g with most := some n } else { g with least := n })
      return .always
    | none =>
      throw ("Expected a positive decimal integer argument to " ++ shown option ++ ", but got " ++
        quotedText t)
  | "-depth" | "-d" =>
    modify fun (ws, g) => (ws, { g with childrenFirst := true })
    return .always
  | "-follow" =>
    modify fun (ws, g) => (ws, { g with follows := true })
    return .always
  | "-xdev" | "-mount" | "-noleaf" | "-daystart" | "-ignore_readdir_race" | "-warn" | "-nowarn" =>
    return .always
  | "-regextype" =>
    let _ ← argument
    return .always
  | o => throw ("unknown predicate \x60" ++ o ++ "'")

/-- The operators by their looseness: `,`, `-o` and the conjunctions. -/
def seekExpression (s : State) : Nat → Nat → SeekReader Seek
  | 0, _ => return .always
  | fuel + 1, level => do
    let next : SeekReader (Option Bytes) := do
      let (ws, _) ← get
      return ws.head?
    let skip : SeekReader Unit := modify fun (ws, g) => (ws.drop 1, g)
    match level with
    | 0 =>
      let a ← seekExpression s fuel 1
      if (← next) = some [','] then
        skip
        return .sequence a (← seekExpression s fuel 0)
      else return a
    | 1 =>
      let a ← seekExpression s fuel 2
      let w ← next
      if w = some "-o".toList || w = some "-or".toList then
        skip
        return .either a (← seekExpression s fuel 1)
      else return a
    | 2 =>
      let a ← seekExpression s fuel 3
      match ← next with
      | none => return a
      | some w =>
        if w = "-a".toList || w = "-and".toList then
          skip
          return .both a (← seekExpression s fuel 2)
        else if w = "-o".toList || w = "-or".toList || w = [')'] || w = [','] then return a
        else return .both a (← seekExpression s fuel 2)
    | _ =>
      match ← next with
      | none => return .always
      | some w =>
        skip
        if w = ['!'] || w = "-not".toList then return .negation (← seekExpression s fuel 3)
        else if w = ['('] then
          let e ← seekExpression s fuel 0
          if (← next) = some [')'] then
            skip
            return e
          else throw "invalid expression; I was expecting to find a ')' somewhere but did not see one."
        else if w = [')'] then
          throw "invalid expression; you have too many ')'"
        else seekTerm s w

/-- What was found so far that commands are run for once, and whether the search ends. -/
structure SeekState where
  gathered : List (Nat × Bytes)
  ended : Bool
  pruned : Bool
  failed : Bool

/-- What a letter of a format of a search tells of a file. -/
def seekField (m : Machine) (depth : Nat) (root : Bytes) (f : Located) (c : Char) : Option Bytes :=
  let number (n : Nat) : Bytes := (toString n).toList
  match c with
  | 'p' => some f.path
  | 'f' => some (lastName f.path)
  | 'h' =>
    let p := f.path
    some (if p.contains '/' then
      let before := (p.reverse.dropWhile (· ≠ '/')).drop 1
      before.reverse else ['.'])
  | 'P' => some ((f.path.drop root.length).dropWhile (· = '/'))
  | 'H' => some root
  | 's' => some (number (f.size m))
  | 'd' => some (number depth)
  | 'm' => some (octalText 1 (m.modeOf f.place f.entry))
  | 'M' => some (f.modeLetters m)
  | 'y' | 'Y' => some [if f.letter = '-' then 'f' else f.letter]
  | 'n' => some (number (f.names m))
  | 'i' => some (number (f.number m))
  | 'u' | 'g' => some "root".toList
  | 'U' | 'G' => some ['0']
  | 'k' => some (number (f.blocks m))
  | 'b' => some (number (2 * f.blocks m))
  | 'l' =>
    match f.entry with
    | .file (.link t) => some t
    | _ => some []
  | 't' => some ((Moment.ofSeconds (f.seconds m)).text "%a %b %e %H:%M:%S.%N %Y".toList)
  | _ => none

/-- What a format of a search tells of a file. -/
def seekText (m : Machine) (depth : Nat) (root : Bytes) (f : Located) : Nat → Bytes → Bytes
  | 0, _ => []
  | _ + 1, [] => []
  | fuel + 1, '%' :: rest =>
    let flags := rest.takeWhile "-0+ #".toList.contains
    let after := rest.drop flags.length
    let width := after.takeWhile Char.isDigit
    match after.drop width.length with
    | '%' :: rest => '%' :: seekText m depth root f fuel rest
    | 'T' :: c :: rest =>
      let time := Moment.ofSeconds (f.seconds m)
      (if c = '@' then (toString (f.seconds m)).toList ++ ".0000000000".toList
        else time.text ['%', c]) ++ seekText m depth root f fuel rest
    | c :: rest =>
      match seekField m depth root f c with
      | some t => laidOut flags (State.digitsNumber width) t ++ seekText m depth root f fuel rest
      | none => '%' :: c :: seekText m depth root f fuel rest
    | [] => ['%']
  | fuel + 1, '\\' :: c :: rest =>
    let known := [('n', '\n'), ('t', '\t'), ('\\', '\\'), ('0', '\x00'), ('r', '\r'), ('a', '\x07')]
    match known.lookup c with
    | some d => d :: seekText m depth root f fuel rest
    | none => '\\' :: c :: seekText m depth root f fuel rest
  | fuel + 1, c :: rest => c :: seekText m depth root f fuel rest

/-- Whether a count stands as asked to another one. -/
def standsAs (sign : Ordering) (actual asked : Nat) : Bool := Ord.compare actual asked = sign

/-- Whether a file is what is searched for; acts on it as asked. -/
def Seek.test (start : Starter) (who root : Bytes) (depth : Nat) (f : Located) :
    Seek → StateT SeekState Act Bool
  | always => return true
  | never => return false
  | name p folded => return p.fits folded (lastName f.path)
  | path p folded => return p.fits folded f.path
  | kinds letters => return letters.contains (if f.letter = '-' then 'f' else f.letter)
  | empty => do
    let s : State ← liftM (m := Act) get
    return match f.entry with
      | .directory => isEmptyDirectory s.machine f.place
      | .file (.regular _) => f.size s.machine = 0
      | _ => false
  | newer than => do
    let s : State ← liftM (m := Act) get
    let c := f.changed s.machine
    return than.1 < c.1 || than.1 = c.1 && than.2 < c.2
  | size sign count unit => do
    let s : State ← liftM (m := Act) get
    return standsAs sign ((f.size s.machine + unit - 1) / unit) count
  | mode any bits => do
    let s : State ← liftM (m := Act) get
    let own := s.machine.modeOf f.place f.entry
    return match any with
      | none => own = bits
      | some false => own &&& bits = bits
      | some true => bits = 0 || own &&& bits ≠ 0
  | links sign count => do
    let s : State ← liftM (m := Act) get
    return standsAs sign (f.names s.machine) count
  | age sign count unit => do
    let s : State ← liftM (m := Act) get
    return standsAs sign ((s.now - f.seconds s.machine).toNat / unit) count
  | same place => return f.place = place
  | print ending => do
    liftM (m := Act) (put who (f.path ++ [ending]))
    return true
  | format text => do
    let s : State ← liftM (m := Act) get
    liftM (m := Act) (put who (seekText s.machine depth root f (text.length + 1) text))
    return true
  | list => do
    let s : State ← liftM (m := Act) get
    let m := s.machine
    let time := (Moment.ofSeconds (f.seconds m)).text "%b %e %H:%M".toList
    liftM (m := Act) (put who (padNumber 9 (f.number m) ++ padNumber 7 (f.blocks m) ++
      ' ' :: f.modeLetters m ++ padNumber 4 (f.names m) ++ " root     root     ".toList ++
      padNumber 8 (f.size m) ++ ' ' :: time ++ ' ' :: f.path ++ ['\n']))
    return true
  | delete => do
    let s : State ← liftM (m := Act) get
    if f.path = ['.'] then return true
    else if isDirectory f.entry && !isEmptyDirectory s.machine f.place then
      liftM (m := Act) (complain who ("cannot delete " ++ quoted f.path ++ ": " ++
        FileFault.notEmpty.reason))
      modify fun k => { k with failed := true }
      return false
    else
      liftM (m := Act) (set { s with machine := removed s.machine f.place })
      return true
  | prune => do
    modify fun k => { k with pruned := true }
    return true
  | quit => do
    modify fun k => { k with ended := true }
    return true
  | run words inside asks => do
    let name := if inside then "./".toList ++ lastName f.path else f.path
    let words := words.map fun w => filledIn ['\x7b', '\x7d'] name (w.length + 1) w
    let yes ← liftM (m := Act) (if asks then do
      say ("< ".toList ++ ((words.head?).getD []) ++ " ... ".toList ++ f.path ++ " > ? ".toList)
      return false
      else return true)
    if !yes then return false
    else
      let status ← liftM (m := Act) (do
        let s ← get
        if inside then set { s with here := f.place.dropLast }
        match ← start words with
        | some fault =>
          complain who (quoted ((words.head?).getD []) ++ ": " ++ fault.reason)
          ends 1
        | none => pure ()
        modify fun t => { t with here := s.here }
        return (← get).status)
      return status = 0
  | gather number inside => do
    let name := if inside then "./".toList ++ lastName f.path else f.path
    modify fun k => { k with gathered := (number, name) :: k.gathered }
    return true
  | negation e => return !(← e.test start who root depth f)
  | both a b => do
    if ← a.test start who root depth f then b.test start who root depth f else return false
  | either a b => do
    if ← a.test start who root depth f then return true else b.test start who root depth f
  | sequence a b => do
    let _ ← a.test start who root depth f
    b.test start who root depth f

/-- Goes over a tree. -/
def seekTree (start : Starter) (who root : Bytes) (g : Seeking) (e : Seek) : Nat → Nat → Located →
    StateT SeekState Act Unit
  | 0, _, _ => pure ()
  | fuel + 1, depth, f => do
    if (← get).ended then return
    let test : StateT SeekState Act Unit := do
      if g.least ≤ depth then
        let _ ← e.test start who root depth f
    modify fun k => { k with pruned := false }
    if !g.childrenFirst then test
    let pruned := (← get).pruned && !g.childrenFirst
    let deeper := g.most.all fun n => depth < n
    if isDirectory f.entry && !pruned && deeper && !(← get).ended then
      let s : State ← liftM (m := Act) get
      let names := (s.machine.files.names f.place).reverse
      names.forM fun n => do
        let s : State ← liftM (m := Act) get
        let place := f.place ++ [n]
        match s.machine.files.entryAt place with
        | none => pure ()
        | some entry =>
          let child : Located := ⟨below f.path n, place, entry⟩
          let child := if g.follows then
            match reached s child.path with
            | .ok (place, entry) => { child with place, entry }
            | .error _ => child
            else child
          seekTree start who root g e fuel (depth + 1) child
    if g.childrenFirst && !(← get).ended then test

/-- Searches trees for files. -/
def find (start : Starter) : Tool := fun who args => do
  let isFlag (w : Bytes) : Bool := ["-H", "-L", "-P"].contains (shown w)
  let flags := args.takeWhile isFlag
  let args := args.drop flags.length
  let isPath (w : Bytes) : Bool :=
    w.head? ≠ some '-' && w ≠ ['('] && w ≠ ['!'] && w ≠ [')'] && w ≠ [',']
  let paths := args.takeWhile isPath
  let words := args.drop paths.length
  let s ← get
  let seeking : Seeking := ⟨0, none, false, flags.getLast? = some ['-', 'L'], []⟩
  let read : SeekReader Seek := do
    if words.isEmpty then return .always
    else
      let e ← seekExpression s (6 * words.length + 6) 0
      let (rest, _) ← get
      match rest with
      | [] => return e
      | w :: _ =>
        if w = [')'] then throw "invalid expression; you have too many ')'"
        else
          throw ("paths must precede expression: \x60" ++ shown w ++ "'")
  match read.run (words, seeking) with
  | .error e => fail who 1 e
  | .ok (e, (_, g)) =>
    let e := if e.acts then e else .both e (.print '\n')
    let roots := if paths.isEmpty then [['.']] else paths
    let search : StateT SeekState Act Unit := roots.forM fun root => do
      let s : State ← liftM (m := Act) get
      match if g.follows || flags.getLast? = some ['-', 'H'] then reached s root else itself s root with
      | .error f =>
        liftM (m := Act) (complain who (quoted root ++ ": " ++ f.reason))
        modify fun k => { k with failed := true }
      | .ok (place, entry) => seekTree start who root g e 200 0 ⟨root, place, entry⟩
    let ((), k) ← search.run ⟨[], false, false, false⟩
    let failures ← (g.gathers.zipIdx).mapM fun (words, i) => do
      let names := k.gathered.reverse.filterMap fun (n, p) => if n = i then some p else none
      if names.isEmpty then return false
      else
        match ← start (words ++ names) with
        | some fault =>
          complain who (quoted ((words.head?).getD []) ++ ": " ++ fault.reason)
          return true
        | none => return (← get).status ≠ 0
    ends (statusOf (!k.failed && !failures.any id))

end Provision.Shell.Tool
