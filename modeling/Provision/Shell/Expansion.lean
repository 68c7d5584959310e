import Provision.Shell.Assignment
import Provision.Shell.Braces
import Provision.Shell.Names
import Provision.Shell.PlainArithmetic
import Provision.Shell.Quoting
import Provision.Shell.Word

/-!
# Expansion

What words stand for when a command runs. A word becomes any number of fields, a text, or a pattern,
depending on where it stands. Commands whose output is a part of a word are run by whoever asks for
the expansion.
-/

namespace Provision.Shell

/-- How commands are run whose output is a part of a word. -/
structure Substitution where
  /-- The output of a command, of which the first line is told. -/
  output : Nat → Command → Act Bytes
  /-- The output of the commands of a text. -/
  outputOf : Bytes → Act Bytes
  /-- The name of a file that a command writes, or reads. -/
  process : Bool → Command → Act Bytes

/-- Where a word stands. -/
inductive Mode where
  /-- Between double quotes. -/
  | quoted
  /-- Where values are split into fields. -/
  | split
  /-- In place of a value that would be split. -/
  | value
  /-- Where there is one field. -/
  | single
  deriving DecidableEq, Repr

/-- What a parameter holds. -/
structure Held where
  texts : List Bytes
  /-- Whether it is all parameters or all elements, and these joined. -/
  several : Bool
  joined : Bool
  /-- Its name in diagnostics. -/
  label : Bytes

/-- The deepest that words stand in each other. -/
def wordDepth : Nat := 4000

/-! ## Home directories -/

/-- The parts of a word with the home directory that it starts with. -/
def tilde (s : State) (inAssignment : Bool) (parts : List Part) : List Part :=
  match parts with
  | .plain ('~' :: cs) :: rest =>
    let user := cs.takeWhile fun c => c ≠ '/' && !(inAssignment && c = ':')
    let after := cs.drop user.length
    if after.isEmpty && !rest.isEmpty then parts
    else
      let home : Option Bytes :=
        match user with
        | [] => some ((s.parameter? "HOME".toList).getD "/root".toList)
        | ['+'] => s.parameter? "PWD".toList
        | ['-'] => s.parameter? "OLDPWD".toList
        | _ => if shown user = "root" then some "/root".toList else none
      match home with
      | some h => .literal h :: .plain after :: rest
      | none => parts
  | _ => parts

/-- The pieces of a text up to and with each colon. -/
def afterColons : Bytes → List Bytes
  | [] => [[]]
  | ':' :: rest => [':'] :: afterColons rest
  | c :: rest =>
    match afterColons rest with
    | [] => [[c]]
    | p :: ps => (c :: p) :: ps

/-- The parts of a value with the home directories that stand at its start and after colons. -/
def tildeInValue (s : State) (parts : List Part) : List Part :=
  let cut := parts.flatMap fun p =>
    match p with
    | .plain t => if t.contains '~' then (afterColons t).map Part.plain else [p]
    | p => [p]
  go true cut
where
  /-- The parts with the home directories; at first after a colon or at the start. -/
  go : Bool → List Part → List Part
    | _, [] => []
    | start, p :: rest =>
      let ends : Bool :=
        match p with
        | .plain t => t.getLast? = some ':'
        | _ => false
      let isTilde :=
        match p with
        | .plain ('~' :: _) => start
        | _ => false
      if isTilde then
        match tilde s true (p :: (if ends then [] else rest.take 1)) with
        | .literal h :: .plain after :: _ => .literal h :: .plain after :: go ends rest
        | _ => p :: go ends rest
      else p :: go ends rest

/-- The parts of a word of a command with home directories. -/
def tildeInWord (s : State) (parts : List Part) : List Part :=
  match parts with
  | .plain t :: rest =>
    let name := t.takeWhile isNameChar
    match s.dialect, t.drop name.length with
    | .bash, '=' :: value =>
      if isName name && value.head? = some '~' then
        .plain (name ++ ['=']) :: tildeInValue s (.plain value :: rest)
      else parts
    | _, _ => tilde s false parts
  | _ => parts

/-! ## Parameters -/

/-- A parameter was not set, and must be. -/
def refuseUnset (label : Bytes) : Act α := do
  let s ← get
  match s.dialect with
  | .bash =>
    let special := label.all Char.isDigit || label.length = 1 && !isName label
    complain ((if special then "$" else "") ++ shown label ++ ": unbound variable")
    leaveShell (if s.subshells = 0 then 127 else 1)
  | .plain =>
    complain (shown label ++ ": parameter not set")
    leaveShell 2

/-- The first byte that separates fields, if one does. -/
def State.joint (s : State) : Bytes := s.separators.joint

/-- All names of variables that start like one. -/
def State.namesLike (s : State) (start : Bytes) : List Bytes :=
  ((allIn s.frames).filter fun e => start.isPrefixOf e.1 && e.2.value ≠ .unset).map Prod.fst

/-- The letters of what is special about a variable. -/
def Variable.letters (v : Variable) : Bytes :=
  (match v.value with
    | .indexed _ => ['a']
    | .keyed _ => ['A']
    | _ => []) ++
  (if v.attributes.integer then ['i'] else []) ++
  (if v.attributes.reference then ['n'] else []) ++
  (if v.attributes.readOnly then ['r'] else []) ++
  (if v.attributes.traced then ['t'] else []) ++
  (if v.attributes.exported then ['x'] else []) ++
  (if v.attributes.capital then ['c'] else []) ++
  (if v.attributes.lower then ['l'] else []) ++
  (if v.attributes.upper then ['u'] else [])

/-- The elements of a value as they are declared. -/
def Value.declaration (v : Value) : Bytes :=
  let element (e : Bytes × Bytes) (key : Bytes) : Bytes :=
    '[' :: key ++ [']', '='] ++ Quoting.declared e.2
  match v with
  | .keyed _ =>
    let key (k : Bytes) : Bytes :=
      if Quoting.needsDollar k then Quoting.dollar k
      else if Quoting.hasMeta k then Quoting.double k else k
    '(' :: v.entries.flatMap (fun e => element e (key e.1) ++ [' ']) ++ [')']
  | v => '(' :: [' '].intercalate (v.entries.map fun e => element e e.1) ++ [')']

/-- A declaration that makes a variable what it is. -/
def Variable.declaration (name : Bytes) (v : Variable) : Bytes :=
  let letters := v.letters
  let start := "declare -".toList ++ (if letters.isEmpty then ['-'] else letters) ++ ' ' :: name
  match v.value with
  | .unset => start
  | .text t => start ++ '=' :: Quoting.declared t
  | .indexed [] | .keyed [] => if v.attributes.bare then start else start ++ "=()".toList
  | v => start ++ '=' :: v.declaration

/-- A text changed as an operator tells. -/
def transformText (operator : Char) (t : Bytes) : Bytes :=
  match operator with
  | 'Q' | 'K' | 'k' => Quoting.always t
  | 'U' => t.map Char.toUpper
  | 'L' => t.map Char.toLower
  | 'u' =>
    match t with
    | c :: rest => c.toUpper :: rest
    | [] => []
  | 'E' => decodeDollar (t.length + 1) t
  | _ => t

/-- The letter in another case, if it fits a pattern. -/
def changeLetter (change : CaseChange) (p : Option Pattern) (c : Char) : Char :=
  if p.all fun p => p.fits false [c] then
    match change with
    | .upper => c.toUpper
    | .lower => c.toLower
    | .toggle => if c.isUpper then c.toLower else c.toUpper
  else c

/-- A text with its first letter, or all that fit a pattern, in another case. -/
def changeCase (change : CaseChange) (all : Bool) (p : Option Pattern) (t : Bytes) : Bytes :=
  if all then t.map (changeLetter change p)
  else
    match t with
    | c :: rest => changeLetter change p c :: rest
    | [] => []

/-- What stands in place of a match: its bytes wherever an ampersand is not quoted. -/
def replacementFor (replacement : Glyphs) (found : Bytes) : Bytes :=
  replacement.flatMap fun g => if g = ⟨'&', false⟩ then found else [g.byte]

/-- A text with all matches of a pattern replaced, from a position on. -/
def replaceAll (s : Subject) (p : Pattern) (replacement : Glyphs) : Nat → Nat → Bytes
  | 0, start => s.between start s.text.size
  | n + 1, start =>
    if s.text.size ≤ start then []
    else
      match s.search p start with
      | none => s.between start s.text.size
      | some (first, f) =>
        if f.position = first then
          s.between start (first + 1) ++ replaceAll s p replacement n (first + 1)
        else
          s.between start first ++ replacementFor replacement (s.between first f.position) ++
            replaceAll s p replacement n f.position

/-- A text with matches of a pattern replaced. -/
def replaceIn (extent : Extent) (pattern : Glyphs) (p : Pattern) (replacement : Glyphs)
    (t : Bytes) : Bytes :=
  let s : Subject := ⟨t.toArray, false⟩
  match extent with
  | .all => if pattern.isEmpty then t else replaceAll s p replacement (t.length + 1) 0
  | .first =>
    if pattern.isEmpty then t
    else
      match s.search p 0 with
      | none => t
      | some (first, f) =>
        if f.position = first && !t.isEmpty then t
        else
          t.take first ++ replacementFor replacement (s.between first f.position) ++
            t.drop f.position
  | .atStart =>
    match Subject.furthest (s.follow p ⟨0, []⟩) with
    | none => t
    | some f => replacementFor replacement (t.take f.position) ++ t.drop f.position
  | .atEnd =>
    match p.lastFit s s.text.size (List.range (s.text.size + 1)) with
    | none => t
    | some first => t.take first ++ replacementFor replacement (t.drop first)

/-- Some of the bytes of a text; none if the end lies before the start. -/
def sliceText (t : Bytes) (offset : Int) (length : Option Int) : Option Bytes :=
  let size : Int := t.length
  let first := if offset < 0 then size + offset else offset
  if first < 0 || size < first then some []
  else
    match length with
    | none => some (t.drop first.toNat)
    | some n =>
      if n < 0 then
        if size + n < first then none
        else some ((t.drop first.toNat).take (size + n - first).toNat)
      else some ((t.drop first.toNat).take n.toNat)

/-- Some of several texts, each with its number. -/
def sliceTexts (texts : List (Nat × Bytes)) (offset : Int) (length : Option Int) : List Bytes :=
  let size : Int := ((texts.getLast?).map fun e => (e.1 : Int) + 1).getD 0
  let first := if offset < 0 then size + offset else offset
  if first < 0 then []
  else
    let rest := (texts.filter fun e => first ≤ (e.1 : Int)).map Prod.snd
    match length with
    | none => rest
    | some n => rest.take n.toNat

/-- The fields with what a parameter holds. -/
def addHeld (s : State) (mode : Mode) (h : Held) (f : Fields) : Fields :=
  if h.several then
    match mode with
    | .quoted =>
      if h.joined then f.add true (s.joint.intercalate h.texts) else f.addEach h.texts
    | .single =>
      f.add false ((if h.joined then s.joint else [' ']).intercalate h.texts)
    | _ => f.addEachSplit s.separators h.texts
  else
    let t := h.texts.head?.getD []
    match mode with
    | .quoted => f.add true t
    | .single => f.add false t
    | _ => f.addSplit s.separators t

/-- Whether what a parameter holds counts as missing. -/
def Held.isMissing (h : Held) (orEmpty : Bool) : Bool :=
  h.texts.isEmpty || (orEmpty && ([' '].intercalate h.texts).isEmpty)

/-- What a parameter without an index holds. -/
def heldBy (name : Bytes) : Act Held := do
  let s ← get
  match name with
  | ['@'] => return ⟨s.positional, true, false, name⟩
  | ['*'] => return ⟨s.positional, true, true, name⟩
  | _ =>
    match s.parameter? name with
    | some t => return ⟨[t], false, false, name⟩
    | none => return ⟨[], false, false, name⟩

/-- The value of an arithmetic text, without which the line ends. -/
def calculateHere (who : String) (t : Bytes) : Act Int := do
  match (← get).dialect with
  | .plain => plainCalculate t
  | .bash =>
    match ← calculate who t with
    | some n => return n
    | none => leaveLine 1

mutual

/-- The fields with the expansion of some parts added. -/
def expandParts (sub : Substitution) : Nat → Mode → List Part → Fields → Act Fields
  | 0, _, _, f => pure f
  | _ + 1, _, [], f => pure f
  | fuel + 1, mode, p :: rest, f => do
    let f ← expandPart sub fuel mode p f
    expandParts sub fuel mode rest f

/-- The fields with the expansion of a part added. -/
def expandPart (sub : Substitution) : Nat → Mode → Part → Fields → Act Fields
  | 0, _, _, f => pure f
  | fuel + 1, mode, p, f => do
    let add (t : Bytes) : Act Fields := do
      let s ← get
      return addHeld s mode ⟨[t], false, false, []⟩ f
    match p with
    | .plain t =>
      match mode with
      | .value => return f.addSplit (← get).separators t
      | .quoted => return f.add true t
      | _ => return f.add false t
    | .literal t => return f.add true t
    | .quoted [] => return f.add true []
    | .quoted parts => expandParts sub fuel .quoted parts f
    | .parameter (.mk name index indirect) use =>
      expandParameter sub fuel mode name index indirect use f
    | .bad text =>
      match (← get).dialect with
      | .bash =>
        complain (shown text ++ ": bad substitution")
        leaveLine 1
      | .plain =>
        complain "Bad substitution"
        leaveShell 2
    | .output line c => add (← sub.output line c)
    | .outputOf text => add (← sub.outputOf text)
    | .process writes c => return f.add true (← sub.process writes c)
    | .arithmetic parts =>
      let t ← flat sub fuel .quoted parts
      add (intText (← calculateHere "" t))

/-- The text of some parts. -/
def flat (sub : Substitution) : Nat → Mode → List Part → Act Bytes
  | 0, _, _ => pure []
  | fuel + 1, mode, parts => do
    let f ← expandParts sub fuel mode parts .empty
    return Glyphs.bytes (f.joined [' '])

/-- Some parts as a pattern. -/
def patternOf (sub : Substitution) : Nat → List Part → Act Glyphs
  | 0, _ => pure []
  | fuel + 1, parts => do
    let f ← expandParts sub fuel .single parts .empty
    return f.joined [' ']

/-- What a parameter with an index holds. -/
def heldAt (sub : Substitution) : Nat → Bytes → Index → Act Held
  | 0, name, _ => pure ⟨[], false, false, name⟩
  | fuel + 1, name, index => do
    let s ← get
    let value := ((s.variableOf name).map Variable.value).getD .unset
    match index with
    | .none => heldBy name
    | .each => return ⟨value.texts, true, false, name ++ "[@]".toList⟩
    | .joined => return ⟨value.texts, true, true, name ++ "[*]".toList⟩
    | .element word =>
      let key ← flat sub fuel .single word
      if key.isEmpty then
        complain ("$\x7b" ++ shown name ++ "[]\x7d: bad substitution")
        leaveLine 1
      let label := elementLabel name key
      match value with
      | .keyed _ => return ⟨(value.key? key).toList, false, false, label⟩
      | _ =>
        match value.position? (← requireNumber "" key) with
        | some i => return ⟨(value.at? i).toList, false, false, label⟩
        | none =>
          complain (shown name ++ ": bad array subscript")
          return ⟨[], false, false, label⟩

/-- What a parameter holds, or the one that it names. -/
def held (sub : Substitution) : Nat → Bytes → Index → Bool → Act (Held × Bytes × Index)
  | 0, name, index, _ => pure (⟨[], false, false, name⟩, name, index)
  | fuel + 1, name, index, indirect => do
    if !indirect then return (← heldAt sub fuel name index, name, index)
    let s ← get
    let isReference :=
      match index, findIn s.frames name with
      | .none, some v => v.attributes.reference
      | _, _ => false
    if isReference then
      return (⟨[s.target name], false, false, name⟩, name, index)
    let outer ← heldAt sub fuel name index
    match outer.texts with
    | [] =>
      complain (shown outer.label ++ ": invalid indirect expansion")
      leaveLine 1
    | t :: _ =>
      if t.isEmpty then
        return (⟨[], false, false, t⟩, t, .none)
      let (inner, subscript) := Calculation.nameParts t
      let index : Index :=
        match subscript with
        | none => .none
        | some ['@'] => .each
        | some ['*'] => .joined
        | some i => .element [.literal i]
      if isName inner then return (← heldAt sub fuel inner index, inner, index)
      else if t.all Char.isDigit || (t.length = 1 && isSpecialParameter (t.head?.getD 'a')) then
        return (← heldBy t, t, .none)
      else
        complain (shown t ++ ": invalid variable name")
        leaveLine 1

/-- The fields with a parameter added as it is used. -/
def expandParameter (sub : Substitution) :
    Nat → Mode → Bytes → Index → Bool → Use → Fields → Act Fields
  | 0, _, _, _, _, _, f => pure f
  | fuel + 1, mode, name, index, indirect, use, f => do
    match use with
    | .names joined =>
      let s ← get
      return addHeld s mode ⟨s.namesLike name, true, joined, name⟩ f
    | .indices =>
      let s ← get
      let value := ((s.variableOf name).map Variable.value).getD .unset
      let joined :=
        match index with
        | .joined => true
        | _ => false
      return addHeld s mode ⟨value.entries.map Prod.fst, true, joined, name⟩ f
    | _ =>
    let (h, name, index) ← held sub fuel name index indirect
    let s ← get
    let asked : Act Unit := do
      if h.texts.isEmpty && !h.several && s.has "nounset" then refuseUnset h.label
    let each (change : Bytes → Bytes) : Act Fields := do
      asked
      return addHeld (← get) mode { h with texts := h.texts.map change } f
    let wordMode : Mode :=
      match mode with
      | .quoted => .quoted
      | .single => .single
      | _ => .value
    match use with
    | .value =>
      asked
      return addHeld s mode h f
    | .length =>
      asked
      let n := if h.several then h.texts.length else (h.texts.head?.getD []).length
      return addHeld s mode ⟨[(toString n).toList], false, false, []⟩ f
    | .default orEmpty word =>
      if h.isMissing orEmpty then expandParts sub fuel wordMode (tilde s false word) f
      else return addHeld s mode h f
    | .alternative orEmpty word =>
      if h.isMissing orEmpty then
        return if mode = .quoted then f.add true [] else f
      else expandParts sub fuel wordMode (tilde s false word) f
    | .assign orEmpty word =>
      if !h.isMissing orEmpty then return addHeld s mode h f
      let t ← flat sub fuel (if mode = .quoted then .quoted else .single) (tilde s false word)
      if !isName name then
        complain (if s.dialect = .bash then "$" ++ shown name ++ ": cannot assign in this way"
          else shown name ++ ": bad variable name")
        if s.dialect = .bash then leaveLine 1 else leaveShell 2
      let ok ←
        match index with
        | .element word =>
          assign "" name (some (← flat sub fuel .single word)) false t
        | _ => assignText "" name t
      if !ok then leaveLine 1
      return addHeld (← get) mode ⟨[t], false, false, []⟩ f
    | .insist orEmpty word =>
      if !h.isMissing orEmpty then return addHeld s mode h f
      let t ← flat sub fuel (if mode = .quoted then .quoted else .single) (tilde s false word)
      let standard :=
        match s.dialect, orEmpty with
        | .bash, true | .plain, true => "parameter null or not set"
        | _, _ => "parameter not set"
      let standard :=
        if s.dialect = .plain && orEmpty then "parameter not set or null" else standard
      complain (shown h.label ++ ": " ++ (if word.isEmpty then standard else shown t))
      if s.dialect = .plain then leaveShell 2
      leaveShell (if s.subshells = 0 then 127 else 1)
    | .drop fromEnd longest pattern =>
      let p := glob (s.allows "extglob") (← patternOf sub fuel (tilde s false pattern))
      each fun t => if fromEnd then p.dropEnd longest t else p.dropStart longest t
    | .replace extent pattern replacement =>
      let gs ← patternOf sub fuel (tilde s false pattern)
      let r ← patternOf sub fuel (tilde s false replacement)
      let p := glob (s.allows "extglob") gs
      each (replaceIn extent gs p r)
    | .change change all pattern =>
      let gs ← patternOf sub fuel pattern
      let p := if gs.isEmpty then none else some (glob (s.allows "extglob") gs)
      each (changeCase change all p)
    | .slice offset length =>
      asked
      let first ← calculateHere (shown name ++ ": ") (← flat sub fuel .quoted offset)
      let count ←
        match length with
        | none => pure none
        | some word => do
          let n ← calculateHere (shown name ++ ": ") (← flat sub fuel .quoted word)
          pure (some n)
      let tooShort : Act Fields := do
        complain (shown (intText (count.getD 0)) ++ ": substring expression < 0")
        leaveLine 1
      let s ← get
      if h.several then
        if count.any (· < 0) then tooShort
        else
          let texts : List (Nat × Bytes) :=
            match index with
            | .none => (s.name :: s.positional).zipIdx.map fun (t, i) => (i, t)
            | _ =>
              match (s.variableOf name).map Variable.value with
              | some (.keyed es) => (Value.keyed es).texts.zipIdx.map fun (t, i) => (i + 1, t)
              | some v => v.elements
              | none => []
          return addHeld s mode { h with texts := sliceTexts texts first count } f
      else
        match h.texts with
        | [] => return addHeld s mode h f
        | t :: _ =>
          match sliceText t first count with
          | some t => return addHeld s mode { h with texts := [t] } f
          | none => tooShort
    | .transform operator =>
      asked
      let v := (s.variableOf name).getD ⟨.unset, .none⟩
      match operator with
      | 'a' =>
        let letters := v.letters
        let texts := if h.several then h.texts.map fun _ => letters else [letters]
        return addHeld s mode { h with texts } f
      | 'A' =>
        if h.texts.isEmpty && v.letters.isEmpty then
          return addHeld s mode h f
        let text :=
          if h.several then
            if isName name then v.declaration name
            else "set -- ".toList ++ [' '].intercalate (h.texts.map Quoting.always)
          else
            let value := h.texts.head?.map Quoting.always
            let start := if v.letters.isEmpty then [] else "declare -".toList ++ v.letters ++ [' ']
            start ++ name ++ ((value.map ('=' :: ·)).getD [])
        return addHeld s mode ⟨[text], false, false, []⟩ f
      | 'K' | 'k' =>
        match h.several && isName name with
        | true =>
          if operator = 'K' then
            let pairs := v.value.entries.map fun e => e.1 ++ ' ' :: Quoting.declared e.2
            return addHeld s mode ⟨[[' '].intercalate pairs], false, false, []⟩ f
          else
            let texts := v.value.entries.flatMap fun e => [e.1, e.2]
            return addHeld s mode { h with texts } f
        | false => each (transformText operator)
      | _ => each (transformText operator)
    | .names _ | .indices => return f

end

/-- The text of a word. -/
def textOf (sub : Substitution) (w : Word) : Act Bytes := do
  let s ← get
  match w with
  | [.plain t] => if t.head? ≠ some '~' then return t
  | _ => pure ()
  flat sub wordDepth .single (tilde s false w)

/-- The text of a word that a variable takes on. -/
def valueOf (sub : Substitution) (w : Word) : Act Bytes := do
  let s ← get
  match w with
  | [.plain t] => if !t.contains '~' then return t
  | _ => pure ()
  flat sub wordDepth .single (tildeInValue s w)

/-- The text of a document. -/
def documentOf (sub : Substitution) (w : Word) : Act Bytes := flat sub wordDepth .quoted w

/-- The pattern that a word is. -/
def patternWord (sub : Substitution) (w : Word) : Act Glyphs := do
  let s ← get
  patternOf sub wordDepth (tilde s false w)

/-- How the names of files are compared with patterns. -/
def State.nameStyle (s : State) : Names.Style :=
  ⟨s.allows "extglob", s.allows "dotglob", s.allows "nocaseglob", s.allows "globstar"⟩

/-- The words that a field stands for: the names of files if it is a pattern of some. -/
def namesOf (field : Glyphs) : Act (List Bytes) := do
  let s ← get
  if s.has "noglob" || !Glob.isActiveIn (s.allows "extglob") field then return [field.bytes]
  match Names.find s.nameStyle ⟨s.machine, s.here⟩ field with
  | [] =>
    if s.allows "failglob" then
      complain ("no match: " ++ shown field.bytes)
      leaveLine 1
    if s.allows "nullglob" then return []
    return [field.bytes]
  | names => return names

/-- Whether a byte may mean something in a word. -/
def isPlainByte (c : Char) : Bool := c.isAlphanum || ['-', '_', '/', '.', ',', ':', '+', '%'].contains c

/-- The words that a word of a command stands for. -/
def fieldsOf (sub : Substitution) (w : Word) : Act (List Bytes) := do
  match w with
  | [.plain t] => if t.all isPlainByte then return [t]
  | [.literal t] => return [t]
  | _ => pure ()
  let s ← get
  let ws := if s.dialect = .bash && s.has "braceexpand" then Braces.words w else [w]
  let fields ← ws.mapM fun w => do
    let f ← expandParts sub wordDepth .split (tildeInWord (← get) w) .empty
    return f.toList
  let words ← fields.flatten.mapM namesOf
  return words.flatten

/-- The words that some words of a command stand for. -/
def fieldsOfAll (sub : Substitution) (ws : List Word) : Act (List Bytes) := do
  let fields ← ws.mapM (fieldsOf sub)
  return fields.flatten

end Provision.Shell
