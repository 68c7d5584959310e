import Provision.Shell.Tool.Options

/-!
# Bytes as numbers

`od` writes the bytes that it reads as numbers or letters, in lines of a width; equal lines are left
out. `base64` and `base32` write them as text, and back.
-/

namespace Provision.Shell.Tool

/-! ## Tables of numbers -/

/-- How bytes are shown in a table. -/
inductive DumpForm where
  /-- Numbers of so many bytes in a base, with a sign or without. -/
  | number (size base : Nat) (signed : Bool)
  | letter
  | name
  deriving DecidableEq

/-- How bytes are shown, and whether they are also shown as text at the end of the line. -/
structure DumpColumn where
  form : DumpForm
  text : Bool

namespace DumpForm

/-- How many bytes are shown as one. -/
def size : DumpForm → Nat
  | number size _ _ => size
  | letter | name => 1

/-- How wide one is written. -/
def width : DumpForm → Nat
  | letter | name => 3
  | number size base signed =>
    if base = 16 then 2 * size
    else if base = 8 then [3, 6, 11, 22][Nat.log2 size]?.getD 22
    else if signed then [4, 6, 11, 20][Nat.log2 size]?.getD 20
    else [3, 5, 10, 20][Nat.log2 size]?.getD 20

/-- The names of the bytes that are not shown. -/
def controlNames : List String :=
  ["nul", "soh", "stx", "etx", "eot", "enq", "ack", "bel", "bs", "ht", "nl", "vt", "ff", "cr",
    "so", "si", "dle", "dc1", "dc2", "dc3", "dc4", "nak", "syn", "etb", "can", "em", "sub", "esc",
    "fs", "gs", "rs", "us", "sp"]

/-- A number in a base, filled with zeros. -/
def filledDigits (base width n : Nat) : Bytes :=
  let ds := Nat.toDigits base n
  List.replicate (width - ds.length) '0' ++ ds

/-- Some bytes as they are shown. -/
def text (f : DumpForm) (bytes : Bytes) : Bytes :=
  match f with
  | letter =>
    let c := (bytes.head?).getD '\x00'
    let known := [('\x00', "\\0"), ('\x07', "\\a"), ('\x08', "\\b"), ('\x0c', "\\f"),
      ('\n', "\\n"), ('\r', "\\r"), ('\t', "\\t"), ('\x0b', "\\v")]
    match known.lookup c with
    | some t => t.toList
    | none => if ' ' ≤ c && c ≤ '~' then [c] else filledDigits 8 3 c.toNat
  | name =>
    let n := ((bytes.head?).getD '\x00').toNat % 128
    if n = 127 then "del".toList
    else
      match controlNames[n]? with
      | some t => t.toList
      | none => [Char.ofNat n]
  | number size base signed =>
    let n := bytes.reverse.foldl (fun n c => n * 256 + c.toNat) 0
    if base = 10 then
      if signed && Nat.pow 2 (8 * size - 1) ≤ n then
        '-' :: (toString (Nat.pow 2 (8 * size) - n)).toList
      else (toString n).toList
    else filledDigits base f.width n

end DumpForm

/-- The forms that a text describes, or what is wrong with it. -/
def dumpColumns : Nat → Bytes → Except String (List DumpColumn)
  | 0, _ => .ok []
  | _ + 1, [] => .ok []
  | fuel + 1, c :: rest =>
    let finish (form : DumpForm) (rest : Bytes) : Except String (List DumpColumn) :=
      match rest with
      | 'z' :: rest => (dumpColumns fuel rest).map (⟨form, true⟩ :: ·)
      | rest => (dumpColumns fuel rest).map (⟨form, false⟩ :: ·)
    match c with
    | 'a' => finish .name rest
    | 'c' => finish .letter rest
    | 'd' | 'o' | 'u' | 'x' =>
      let base := if c = 'o' then 8 else if c = 'x' then 16 else 10
      let signed : Bool := c = 'd'
      let digits := rest.takeWhile Char.isDigit
      let letters := [('C', 1), ('S', 2), ('I', 4), ('L', 8)]
      match rest with
      | l :: after =>
        match letters.lookup l with
        | some size => finish (.number size base signed) after
        | none =>
          if digits.isEmpty then finish (.number 4 base signed) rest
          else
            let size := State.digitsNumber digits
            if [1, 2, 4, 8].contains size then
              finish (.number size base signed) (rest.drop digits.length)
            else
              .error ("invalid type string " ++ quotedText (c :: rest) ++
                ";\nthis system doesn't provide a " ++ toString size ++ "-byte integral type")
      | [] => finish (.number 4 base signed) rest
    | c =>
      .error ("invalid character '" ++ String.singleton c ++ "' in type string " ++
        quotedText (c :: rest))

/-- How a table is written. -/
structure DumpTable where
  columns : List DumpColumn
  /-- The base of addresses and their width, if there are any. -/
  address : Option (Nat × Nat)
  width : Nat
  showsAll : Bool

/-- The bytes of a line in parts of a size; the last one is filled with zeros. -/
def partsOf (size : Nat) : Nat → Bytes → List Bytes
  | 0, _ => []
  | _ + 1, [] => []
  | fuel + 1, bytes =>
    let part := bytes.take size
    (part ++ List.replicate (size - part.length) '\x00') :: partsOf size fuel (bytes.drop size)

namespace DumpTable

/-- An address. -/
def addressText (t : DumpTable) (n : Nat) : Bytes :=
  match t.address with
  | none => []
  | some (base, width) => DumpForm.filledDigits base width n

/-- How wide a line is in the column that is widest. -/
def lineWidth (t : DumpTable) : Nat :=
  t.columns.foldl (fun n c => max n ((c.form.width + 1) * (t.width / c.form.size))) 0

/-- The fields of a line in one column; `pad` is spread between them. -/
def fields (width : Nat) (pad : Nat) (count : Nat) : Nat → Nat → List Bytes → Bytes
  | _, _, [] => []
  | i, left, f :: fs =>
    let next := pad * (i - 1) / count
    padTo (left - next + width) f ++ fields width pad count (i - 1) next fs
where
  /-- A field filled with blanks at its start. -/
  padTo (n : Nat) (f : Bytes) : Bytes := List.replicate (n - f.length) ' ' ++ f

/-- A line of the table. -/
def line (t : DumpTable) (address : Nat) (bytes : Bytes) : Bytes :=
  let rec columns (start : Bytes) : List DumpColumn → Bytes
    | [] => []
    | c :: cs =>
      let count := t.width / c.form.size
      let pad := t.lineWidth - c.form.width * count
      let parts := partsOf c.form.size (bytes.length + 1) bytes
      let row := fields c.form.width pad count count pad (parts.map c.form.text)
      let shownText :=
        if c.text then
          let missing := t.lineWidth - row.length
          let letters := bytes.map fun c => if ' ' ≤ c && c ≤ '~' then c else '.'
          List.replicate missing ' ' ++ "  >".toList ++ letters ++ ['<']
        else []
      start ++ row ++ shownText ++ '\n' ::
        columns (start.map fun _ => ' ') cs
  columns (t.addressText address) t.columns

/-- The lines of a table. -/
def lines (t : DumpTable) : Nat → Nat → Option Bytes → Bool → Bytes → List Bytes
  | 0, _, _, _, _ => []
  | _ + 1, _, _, _, [] => []
  | fuel + 1, address, before, skipped, bytes =>
    let part := bytes.take t.width
    let rest := bytes.drop t.width
    let full : Bool := part.length = t.width
    if full && !t.showsAll && before = some part then
      (if skipped then [] else [['*', '\n']]) ++
        lines t fuel (address + t.width) before true rest
    else t.line address part :: lines t fuel (address + t.width) (some part) false rest

/-- The whole table, from an address on. -/
def text (t : DumpTable) (start : Nat) (bytes : Bytes) : Bytes :=
  (t.lines (bytes.length + 1) start none false bytes).flatten ++
    (match t.address with
      | none => []
      | some _ => t.addressText (start + bytes.length) ++ ['\n'])

end DumpTable

/-- The letters that stand for a form by themselves. -/
def shortDumps : List (Char × String) :=
  [('a', "a"), ('b', "o1"), ('c', "c"), ('d', "u2"), ('h', "x2"), ('i', "dI"), ('l', "dL"),
    ('o', "o2"), ('s', "d2"), ('x', "x2")]

/-- A number that may be octal or hexadecimal, with letters that multiply it. -/
def dumpNumber? (t : Bytes) : Option Nat :=
  match t with
  | '0' :: 'x' :: hex =>
    if !hex.isEmpty && hex.all fun c => c.isDigit || "abcdefABCDEF".toList.contains c then
      some (hex.foldl (fun n c => n * 16 + (if c.isDigit then c.toNat - 48
        else c.toLower.toNat - 87)) 0)
    else none
  | '0' :: octal =>
    if octal.all fun c => '0' ≤ c && c ≤ '7' then
      some (octal.foldl (fun n c => n * 8 + (c.toNat - 48)) 0)
    else size? t
  | t => size? t

/-- Writes bytes as numbers. -/
def od : Tool := fun who args =>
  let forms := [valued 'A' "address-radix", valued 'j' "skip-bytes", valued 'N' "read-bytes",
    valued 't' "format", flag 'v' "output-duplicates", ⟨some 'w', "width", .perhaps⟩,
    valued 'S' "strings", longOnly "endian" .argument] ++ shortDumps.map fun s => flag s.1 ""
  withWords who 1 forms false args fun w => do
    let specs := w.options.filterMap fun o =>
      if o.1 = "t" then o.2 else (shortDumps.find? fun s => String.singleton s.1 = o.1).map
        fun s => s.2.toList
    let specs := if specs.isEmpty then ["oS".toList] else specs
    match specs.mapM fun t => dumpColumns (t.length + 1) t with
    | .error e => fail who 1 e
    | .ok columns =>
      let columns := columns.flatten
      let address : Option (Nat × Nat) :=
        match (w.value? "A").bind List.head? with
        | some 'n' => none
        | some 'd' => some (10, 7)
        | some 'x' => some (16, 6)
        | _ => some (8, 7)
      let largest := columns.foldl (fun n c => max n c.form.size) 1
      let asked :=
        if w.has "w" then (match w.value? "w" with
          | some t => (dumpNumber? t).getD 32
          | none => 32)
        else 16
      let width := if asked % largest = 0 && asked ≠ 0 then asked else largest
      let names := if w.operands.isEmpty then [['-']] else w.operands
      let skip := ((w.value? "j").bind dumpNumber?).getD 0
      let most := (w.value? "N").bind dumpNumber?
      let rec read : List Bytes → Act (List Bytes × Bool)
        | [] => return ([], true)
        | n :: ns => do
          let taken ← do
            match ← openOperand n with
            | .error f => pure (.error f)
            | .ok stream => do
              let s ← get
              match most with
              | some k =>
                if s.machine.isEndless stream then
                  pure ((s.machine.available stream).map fun block =>
                    (List.replicate (k / (max 1 block.length) + 1) block).flatten.take k)
                else drain stream
              | none => drain stream
          match taken with
          | .ok t =>
            let (rest, fine) ← read ns
            return (t :: rest, fine)
          | .error f =>
            complain who (named n ++ ": " ++ f.reason)
            let (rest, _) ← read ns
            return (rest, false)
      let (contents, fine) ← read names
      let bytes := contents.flatten
      if bytes.length < skip then fail who 1 "cannot skip past end of combined input"
      else
        let bytes := bytes.drop skip
        let bytes := match most with
          | some k => bytes.take k
          | none => bytes
        let table : DumpTable := ⟨columns, address, width, w.has "v"⟩
        output who (if contents.isEmpty then [] else table.text skip bytes) (statusOf fine)

/-! ## Bytes as text -/

/-- A way to write bytes with letters: how many bits each stands for, the letters, and how many make a
full group. -/
structure Lettering where
  bits : Nat
  letters : Array Char
  group : Nat

/-- Sixty-four letters. -/
def lettering64 : Lettering :=
  ⟨6, "ABCDEFGHIJKLMNOPQRSTUVWXYZabcdefghijklmnopqrstuvwxyz0123456789+/".toList.toArray, 4⟩

/-- Thirty-two letters. -/
def lettering32 : Lettering := ⟨5, "ABCDEFGHIJKLMNOPQRSTUVWXYZ234567".toList.toArray, 8⟩

namespace Lettering

/-- The letters of so many bits, of which some are left from before. -/
def encodeFrom (l : Lettering) : Nat → Nat → Nat → Bytes → Bytes
  | 0, _, _, _ => []
  | fuel + 1, held, count, bytes =>
    if l.bits ≤ count then
      let low := count - l.bits
      (l.letters[held / Nat.pow 2 low]?).getD 'A' ::
        encodeFrom l fuel (held % Nat.pow 2 low) low bytes
    else
      match bytes with
      | c :: rest => encodeFrom l fuel (held * 256 + c.toNat) (count + 8) rest
      | [] =>
        if count = 0 then []
        else [(l.letters[held * Nat.pow 2 (l.bits - count)]?).getD 'A']

/-- The letters of bytes, filled up to a full group. -/
def encode (l : Lettering) (bytes : Bytes) : Bytes :=
  let letters := l.encodeFrom (3 * bytes.length + 3) 0 0 bytes
  let missing := (l.group - letters.length % l.group) % l.group
  letters ++ List.replicate missing '='

/-- The bytes of letters, and whether all of them could be read. -/
def decode (l : Lettering) (text : Bytes) : Bytes × Bool :=
  let step (s : List Char × Nat × Nat × Nat × Bool) (c : Char) :
      List Char × Nat × Nat × Nat × Bool :=
    let (out, held, count, letters, fine) := s
    if !fine then s
    else if c = '=' then (out, held, count, letters + 1, fine)
    else
      match l.letters.idxOf? c with
      | none => (out, held, count, letters, false)
      | some v =>
        let held := held * Nat.pow 2 l.bits + v
        let count := count + l.bits
        if 8 ≤ count then
          (Char.ofNat (held / Nat.pow 2 (count - 8) % 256) :: out,
            held % Nat.pow 2 (count - 8), count - 8,
            letters + 1, fine)
        else (out, held, count, letters + 1, fine)
  let (out, _, _, letters, fine) := text.foldl step ([], 0, 0, 0, true)
  (out.reverse, fine && letters % l.group = 0)

end Lettering

/-- A text in lines of a width; zero for a single one. -/
def wrapped (width : Nat) : Nat → Bytes → Bytes
  | 0, t => t
  | fuel + 1, t =>
    if t.isEmpty then []
    else if width = 0 then t
    else t.take width ++ '\n' :: wrapped width fuel (t.drop width)

/-- Writes bytes as letters, or letters as bytes. -/
def lettered (l : Lettering) : Tool := fun who args =>
  withWords who 1 [flag 'd' "decode", flag 'i' "ignore-garbage", valued 'w' "wrap"] false args
    fun w => do
    match w.operands with
    | _ :: extra :: _ => extraOperand who 1 extra
    | operands =>
      let name := (operands.head?).getD ['-']
      match (w.value? "w").map number? with
      | some none =>
        fail who 1 ("invalid wrap size: " ++ quotedText ((w.value? "w").getD []))
      | width =>
        let width := (width.join).getD 76
        match ← openOperand name with
        | .error f => fail who 1 (named name ++ ": " ++ f.reason)
        | .ok stream =>
          match ← drain stream with
          | .error f => fail who 1 ("read error: " ++ f.reason)
          | .ok t =>
            if w.has "d" then
              let t := t.filter (· ≠ '\n')
              let t := if w.has "i" then t.filter fun c => c = '=' || l.letters.contains c else t
              let (bytes, fine) := l.decode t
              put who bytes
              if fine then ends 0 else fail who 1 "invalid input"
            else output who (wrapped width (t.length * 2 + 2) (l.encode t)) 0

end Provision.Shell.Tool
