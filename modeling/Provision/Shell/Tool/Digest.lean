import Provision.Shell.Tool.Options

/-!
# Digests

Short texts that stand for contents. The secure ones mix blocks of words into a state; their constants
are the first binary digits of roots of the first primes, or of sines.
-/

namespace Provision.Shell.Tool

/-! ## Numbers that look arbitrary -/

/-- The primes below a bound. -/
def primesBelow (n : Nat) : List Nat :=
  (List.range n).filter fun k =>
    2 ≤ k && (List.range k).all fun d => d < 2 || k < d * d || k % d ≠ 0

/-- The greatest number whose power is not greater than another one, bit by bit. -/
def rootBelow (power n : Nat) : Nat → Nat → Nat
  | 0, found => found
  | bit + 1, found =>
    let next := found + Nat.pow 2 bit
    rootBelow power n bit (if Nat.pow next power ≤ n then next else found)

/-- The first bits behind the point of a root of a number. -/
def rootBits (power bits n : Nat) : Nat :=
  rootBelow power (n * Nat.pow 2 (power * bits)) (bits + 5) 0 % Nat.pow 2 bits

/-! ## Blocks -/

/-- The bytes of a number, the lowest one first. -/
def lowFirst : Nat → Nat → Bytes
  | 0, _ => []
  | k + 1, n => Char.ofNat (n % 256) :: lowFirst k (n / 256)

/-- A content with its length behind it, filled up to whole blocks. -/
def filledBlocks (block lengthBytes : Nat) (lowest : Bool) (t : Bytes) : Bytes :=
  let n := t.length
  let used := n + 1 + lengthBytes
  let zeros := (block - used % block) % block
  let size := lowFirst lengthBytes (8 * n)
  t ++ '\x80' :: List.replicate zeros '\x00' ++ (if lowest then size else size.reverse)

/-- The numbers that groups of bytes are. -/
def wordsOfBlock (size : Nat) (lowest : Bool) : Nat → Bytes → List Nat
  | 0, _ => []
  | fuel + 1, t =>
    if t.isEmpty then []
    else
      let part := t.take size
      let n := (if lowest then part.reverse else part).foldl (fun n c => n * 256 + c.toNat) 0
      n :: wordsOfBlock size lowest fuel (t.drop size)

/-- Mixes every block of a content into a state. -/
def mixBlocks (block : Nat) (mix : α → Bytes → α) : Nat → α → Bytes → α
  | 0, state, _ => state
  | fuel + 1, state, t =>
    if t.isEmpty then state
    else mixBlocks block mix fuel (mix state (t.take block)) (t.drop block)

/-- Bytes in base sixteen. -/
def hexText (t : Bytes) : Bytes :=
  let digits := "0123456789abcdef".toList.toArray
  t.flatMap fun c => [digits[c.toNat / 16]?.getD '0', digits[c.toNat % 16]?.getD '0']

/-! ## Words of 32 bits -/

/-- A word turned to the left. -/
def turned (x : UInt32) (n : UInt32) : UInt32 := (x <<< n) ||| (x >>> (32 - n))

/-- A state of four words, mixed with a block whose words start with their lowest byte. -/
def mixFour (table : Array UInt32) (s : UInt32 × UInt32 × UInt32 × UInt32) (block : Bytes) :
    UInt32 × UInt32 × UInt32 × UInt32 :=
  let ws := ((wordsOfBlock 4 true 16 block).map UInt32.ofNat).toArray
  let turns : Array UInt32 := #[7, 12, 17, 22, 5, 9, 14, 20, 4, 11, 16, 23, 6, 10, 15, 21]
  let step (t : UInt32 × UInt32 × UInt32 × UInt32) (i : Nat) :
      UInt32 × UInt32 × UInt32 × UInt32 :=
    let (a, b, c, d) := t
    let (f, k) :=
      if i < 16 then ((b &&& c) ||| (~~~b &&& d), i)
      else if i < 32 then ((d &&& b) ||| (~~~d &&& c), (5 * i + 1) % 16)
      else if i < 48 then (b ^^^ c ^^^ d, (3 * i + 5) % 16)
      else (c ^^^ (b ||| ~~~d), 7 * i % 16)
    let sum := a + f + (table[i]?).getD 0 + (ws[k]?).getD 0
    let n := (turns[i / 16 * 4 + i % 4]?).getD 0
    (d, b + turned sum n, b, c)
  let (a, b, c, d) := (List.range 64).foldl step s
  (s.1 + a, s.2.1 + b, s.2.2.1 + c, s.2.2.2 + d)

/-- The digest of 128 bits. -/
def md5 (t : Bytes) : Bytes :=
  let padded := filledBlocks 64 8 true t
  let (a, b, c, d) := mixBlocks 64 (mixFour sineTable) (padded.length + 1)
    (0x67452301, 0xefcdab89, 0x98badcfe, 0x10325476) padded
  [a, b, c, d].flatMap fun w => lowFirst 4 w.toNat
where
  /-- The first 32 bits of the sines of the first numbers. -/
  sineTable : Array UInt32 := #[
    0xd76aa478, 0xe8c7b756, 0x242070db, 0xc1bdceee, 0xf57c0faf, 0x4787c62a,
    0xa8304613, 0xfd469501, 0x698098d8, 0x8b44f7af, 0xffff5bb1, 0x895cd7be,
    0x6b901122, 0xfd987193, 0xa679438e, 0x49b40821, 0xf61e2562, 0xc040b340,
    0x265e5a51, 0xe9b6c7aa, 0xd62f105d, 0x02441453, 0xd8a1e681, 0xe7d3fbc8,
    0x21e1cde6, 0xc33707d6, 0xf4d50d87, 0x455a14ed, 0xa9e3e905, 0xfcefa3f8,
    0x676f02d9, 0x8d2a4c8a, 0xfffa3942, 0x8771f681, 0x6d9d6122, 0xfde5380c,
    0xa4beea44, 0x4bdecfa9, 0xf6bb4b60, 0xbebfbc70, 0x289b7ec6, 0xeaa127fa,
    0xd4ef3085, 0x04881d05, 0xd9d4d039, 0xe6db99e5, 0x1fa27cf8, 0xc4ac5665,
    0xf4292244, 0x432aff97, 0xab9423a7, 0xfc93a039, 0x655b59c3, 0x8f0ccc92,
    0xffeff47d, 0x85845dd1, 0x6fa87e4f, 0xfe2ce6e0, 0xa3014314, 0x4e0811a1,
    0xf7537e82, 0xbd3af235, 0x2ad7d2bb, 0xeb86d391]

/-- A state of five words, mixed with a block. -/
def mixFive (s : UInt32 × UInt32 × UInt32 × UInt32 × UInt32) (block : Bytes) :
    UInt32 × UInt32 × UInt32 × UInt32 × UInt32 :=
  let first := ((wordsOfBlock 4 false 16 block).map UInt32.ofNat).toArray
  let ws := (List.range 64).foldl (fun (ws : Array UInt32) i =>
    let past (k : Nat) : UInt32 := (ws[i + 16 - k]?).getD 0
    ws.push (turned (past 3 ^^^ past 8 ^^^ past 14 ^^^ past 16) 1)) first
  let step (t : UInt32 × UInt32 × UInt32 × UInt32 × UInt32) (i : Nat) :
      UInt32 × UInt32 × UInt32 × UInt32 × UInt32 :=
    let (a, b, c, d, e) := t
    let (f, k) : UInt32 × UInt32 :=
      if i < 20 then ((b &&& c) ||| (~~~b &&& d), 0x5a827999)
      else if i < 40 then (b ^^^ c ^^^ d, 0x6ed9eba1)
      else if i < 60 then ((b &&& c) ||| (b &&& d) ||| (c &&& d), 0x8f1bbcdc)
      else (b ^^^ c ^^^ d, 0xca62c1d6)
    (turned a 5 + f + e + k + (ws[i]?).getD 0, a, turned b 30, c, d)
  let (a, b, c, d, e) := (List.range 80).foldl step s
  (s.1 + a, s.2.1 + b, s.2.2.1 + c, s.2.2.2.1 + d, s.2.2.2.2 + e)

/-- The digest of 160 bits. -/
def sha1 (t : Bytes) : Bytes :=
  let padded := filledBlocks 64 8 false t
  let (a, b, c, d, e) := mixBlocks 64 mixFive (padded.length + 1)
    (0x67452301, 0xefcdab89, 0x98badcfe, 0x10325476, 0xc3d2e1f0) padded
  [a, b, c, d, e].flatMap fun w => (lowFirst 4 w.toNat).reverse

/-! ## Words of two sizes -/

/-- What differs between digests that mix eight words: how many bits a word has, how many rounds there
are, and how words are turned. -/
structure EightWords where
  bits : Nat
  rounds : Nat
  /-- Three turns for each of two sums of the state. -/
  sums : List (List Nat)
  /-- Two turns and one shift for each of two sums of the block. -/
  sigmas : List (List Nat)

/-- The digests with words of 32 bits. -/
def eightOf32 : EightWords :=
  ⟨32, 64, [[2, 13, 22], [6, 11, 25]], [[7, 18, 3], [17, 19, 10]]⟩

/-- The digests with words of 64 bits. -/
def eightOf64 : EightWords :=
  ⟨64, 80, [[28, 34, 39], [14, 18, 41]], [[1, 8, 7], [19, 61, 6]]⟩

namespace EightWords

/-- A word turned to the right. -/
def turn (e : EightWords) (x n : Nat) : Nat :=
  (x >>> n) ||| ((x <<< (e.bits - n)) % Nat.pow 2 e.bits)

/-- A sum of the state. -/
def sum (e : EightWords) (k x : Nat) : Nat :=
  (((e.sums[k]?).getD []).map (e.turn x)).foldl (· ^^^ ·) 0

/-- A sum of the block. -/
def sigma (e : EightWords) (k x : Nat) : Nat :=
  match (e.sigmas[k]?).getD [] with
  | [a, b, c] => e.turn x a ^^^ e.turn x b ^^^ (x >>> c)
  | _ => 0

/-- The constants of the rounds: the first bits of the cube roots of the first primes. -/
def constants (e : EightWords) : List Nat :=
  ((primesBelow 410).take e.rounds).map (rootBits 3 e.bits)

/-- The state mixed with a block. -/
def mix (e : EightWords) (constants : List Nat) (s : List Nat) (block : Bytes) : List Nat :=
  let modulus := Nat.pow 2 e.bits
  let first := (wordsOfBlock (e.bits / 8) false 16 block).toArray
  let ws := (List.range (e.rounds - 16)).foldl (fun (ws : Array Nat) i =>
    let past (k : Nat) : Nat := (ws[i + 16 - k]?).getD 0
    ws.push ((e.sigma 1 (past 2) + past 7 + e.sigma 0 (past 15) + past 16) % modulus)) first
  let step (t : List Nat) (kw : Nat × Nat) : List Nat :=
    match t with
    | [a, b, c, d, x, f, g, h] =>
      let choice := (x &&& f) ^^^ ((modulus - 1 - x) &&& g)
      let majority := (a &&& b) ^^^ (a &&& c) ^^^ (b &&& c)
      let one := h + e.sum 1 x + choice + kw.1 + kw.2
      let two := e.sum 0 a + majority
      [(one + two) % modulus, a, b, c, (d + one) % modulus, x, f, g]
    | t => t
  let mixed := (constants.zip ws.toList).foldl step s
  (s.zip mixed).map fun (x, y) => (x + y) % modulus

/-- The digest of a content, from a first state, cut to so many bytes. -/
def digest (e : EightWords) (start : List Nat) (length : Nat) (t : Bytes) : Bytes :=
  let block := 2 * e.bits
  let padded := filledBlocks block (e.bits / 4) false t
  let state := mixBlocks block (e.mix e.constants) (padded.length + 1) start padded
  (state.flatMap fun w => (lowFirst (e.bits / 8) w).reverse).take length

end EightWords

/-- The first bits of the square roots of the first primes. -/
def squareRoots (bits : Nat) : List Nat := ((primesBelow 20).take 8).map (rootBits 2 bits)

/-- The first bits of the square roots of the ninth to sixteenth prime. -/
def laterSquareRoots : List Nat := (((primesBelow 54).drop 8).take 8).map (rootBits 2 64)

/-- The digest of 224 bits. -/
def sha224 : Bytes → Bytes := eightOf32.digest (laterSquareRoots.map (· % 0x100000000)) 28

/-- The digest of 256 bits. -/
def sha256 : Bytes → Bytes := eightOf32.digest (squareRoots 32) 32

/-- The digest of 384 bits. -/
def sha384 : Bytes → Bytes := eightOf64.digest laterSquareRoots 48

/-- The digest of 512 bits. -/
def sha512 : Bytes → Bytes := eightOf64.digest (squareRoots 64) 64

/-! ## Programs -/

/-- The name of a file as a digest tells it, and what is written before the digest. -/
def digestName (n : Bytes) : Bytes × Bytes :=
  if n.any fun c => c = '\n' || c = '\\' then
    (n.flatMap fun c => if c = '\n' then ['\\', 'n'] else if c = '\\' then ['\\', '\\'] else [c],
      ['\\'])
  else (n, [])

/-- Compares the digests that a file lists with those of the files that it names. -/
def checkDigests (who : Bytes) (digest : Bytes → Bytes) (w : Words) (text : Bytes) :
    Act (Nat × Nat × Nat) := do
  let results ← (linesOf text).mapM fun line => do
    let hex := line.takeWhile (· ≠ ' ')
    let name := line.drop (hex.length + 2)
    let isHex (c : Char) : Bool := c.isDigit || "abcdefABCDEF".toList.contains c
    if name.isEmpty || hex.length ≠ 2 * (digest []).length || !hex.all isHex then return (0, 0, 1)
    else
      match ← contentOf name with
      | .error f =>
        complain who (named name ++ ": " ++ f.reason)
        put who (name ++ ": FAILED open or read\n".toList)
        return (0, 1, 0)
      | .ok t =>
        let same : Bool := hexText (digest t) = hex.map Char.toLower
        if !w.has "status" then
          if !same || !w.has "quiet" then
            put who (name ++ (bif same then ": OK\n" else ": FAILED\n").toList)
        return (bif same then 0 else 1, 0, 0)
  return results.foldl (fun (a, b, c) (x, y, z) => (a + x, b + y, c + z)) (0, 0, 0)

/-- Writes digests of files. -/
def digestTool (tag : String) (digest : Bytes → Bytes) : Tool := fun who args =>
  withWords who 1
    [flag 'b' "binary", flag 'c' "check", flag 't' "text", flag 'z' "zero", flag 'w' "warn",
      longOnly "tag" .nothing, longOnly "status" .nothing, longOnly "quiet" .nothing,
      longOnly "strict" .nothing, longOnly "ignore-missing" .nothing] false args fun w => do
    let names := if w.operands.isEmpty then [['-']] else w.operands
    if w.has "c" then
      let results ← names.mapM fun n => do
        match ← contentOf n with
        | .error f =>
          complain who (named n ++ ": " ++ f.reason)
          return false
        | .ok text =>
          let (failed, missing, wrong) ← checkDigests who digest w text
          let lines := (linesOf text).length
          if lines = wrong then
            let shownName := if n = ['-'] then "'standard input'" else named n
            complain who (shownName ++ ": no properly formatted checksum lines found")
            return false
          else
            let plural (n : Nat) (one many : String) : String := if n = 1 then one else many
            if !w.has "status" then
              if 0 < wrong then
                complain who ("WARNING: " ++ toString wrong ++
                  plural wrong " line is" " lines are" ++ " improperly formatted")
              if 0 < missing then
                complain who ("WARNING: " ++ toString missing ++
                  plural missing " listed file" " listed files" ++ " could not be read")
              if 0 < failed then
                complain who ("WARNING: " ++ toString failed ++ " computed " ++
                  plural failed "checksum" "checksums" ++ " did NOT match")
            return failed = 0 && missing = 0
      ends (statusOf (results.all id))
    else
      let fine ← forContents who names fun n t => do
        let (name, mark) := digestName n
        let hex := hexText (digest t)
        if w.has "tag" then
          put who (mark ++ tag.toList ++ " (".toList ++ name ++ ") = ".toList ++ hex ++ ['\n'])
        else
          put who (mark ++ hex ++ [' ', if w.has "b" then '*' else ' '] ++ name ++
            [if w.has "z" then '\x00' else '\n'])
      ends (statusOf fine)

/-- The remainder of a content and its length as a polynomial. -/
def cyclicSum (t : Bytes) : Nat :=
  let feed (crc : UInt32) (byte : Nat) : UInt32 :=
    (List.range 8).foldl (fun (crc : UInt32) _ =>
      if crc &&& 0x80000000 = 0 then crc <<< 1 else (crc <<< 1) ^^^ 0x04c11db7)
      (crc ^^^ (UInt32.ofNat byte <<< 24))
  let rec size (fuel n : Nat) : List Nat :=
    match fuel with
    | 0 => []
    | fuel + 1 => if n = 0 then [] else n % 256 :: size fuel (n / 256)
  let body := t.foldl (fun crc c => feed crc c.toNat) 0
  (~~~((size 16 t.length).foldl feed body)).toNat

/-- Writes remainders and lengths of files. -/
def cksum : Tool := fun who args =>
  withWords who 1 [valued 'a' "algorithm"] false args fun w => do
    let fine ← forContents who w.operands fun n t => do
      let name := if w.operands.isEmpty then [] else ' ' :: n
      put who ((toString (cyclicSum t) ++ " " ++ toString t.length).toList ++ name ++ ['\n'])
    ends (statusOf fine)

/-- Writes sums and block counts of files. -/
def sum : Tool := fun who args =>
  withWords who 1 [flag 'r' "", flag 's' "sysv"] false args fun w => do
    let fine ← forContents who w.operands fun n t => do
      let name := if w.operands.isEmpty then [] else ' ' :: n
      if w.has "s" then
        let total := t.foldl (fun n c => n + c.toNat) 0
        let r := total % 65536 + total % 4294967296 / 65536
        let value := r % 65536 + r / 65536
        put who ((toString value ++ " " ++ toString ((t.length + 511) / 512)).toList ++ name ++
          ['\n'])
      else
        let turn (s : Nat) (c : Char) : Nat := ((s / 2 + s % 2 * 32768) + c.toNat) % 65536
        let value := t.foldl turn 0
        let digits := toString value
        put who ((String.ofList (List.replicate (5 - digits.length) '0') ++ digits ++ " " ++
          padLeft 5 (toString ((t.length + 1023) / 1024))).toList ++ name ++ ['\n'])
    ends (statusOf fine)

end Provision.Shell.Tool
