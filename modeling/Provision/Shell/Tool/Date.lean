import Provision.Shell.Builtin.Output
import Provision.Shell.Calendar
import Provision.Shell.Tool.Options

/-!
# Dates in words

Descriptions of instants: dates, times, zones, names of days and months, and steps from one instant
to another one. `date` writes an instant in a format.
-/

namespace Provision.Shell.Tool

/-! ## Descriptions -/

/-- A piece of a description of a date. -/
inductive DateToken where
  | number (sign : Option Char) (digits : Bytes)
  | word (t : Bytes)
  | mark (c : Char)
  deriving DecidableEq

/-- The pieces of a description. -/
def dateTokens : Nat → Bytes → List DateToken
  | 0, _ => []
  | _ + 1, [] => []
  | fuel + 1, c :: rest =>
    if c = ' ' || c = '\t' || c = ',' then dateTokens fuel rest
    else if c.isDigit then
      let ds := (c :: rest).takeWhile Char.isDigit
      .number none ds :: dateTokens fuel ((c :: rest).drop ds.length)
    else if c.isAlpha then
      let word := (c :: rest).takeWhile fun c => c.isAlpha || c = '.'
      .word ((word.filter (· ≠ '.')).map Char.toLower) :: dateTokens fuel ((c :: rest).drop word.length)
    else .mark c :: dateTokens fuel rest

/-- What is known of the instant that is described. -/
structure Described where
  year : Option Int
  month : Nat
  day : Nat
  hasDate : Bool
  /-- Seconds since midnight. -/
  time : Option Nat
  /-- Seconds that the zone is ahead of universal time. -/
  zone : Option Int
  weekday : Option Nat
  weekdayStep : Int
  months : Int
  days : Int
  seconds : Int
  instant : Option Int

/-- The number of a name by its first letters. -/
def nameNumber? (names : List String) (t : Bytes) : Option Nat :=
  if t.length < 3 then none
  else names.findIdx? fun n =>
    let n := n.toList.map Char.toLower
    n = t || n.take 3 = t || t = "sept".toList && n.take 4 = t

/-- The steps that a unit makes: months, days and seconds. -/
def unitStep? (t : Bytes) : Option (Int × Int × Int) :=
  let single := if t.length > 1 && t.getLast? = some 's' then t.dropLast else t
  match shown single with
  | "year" => some (12, 0, 0)
  | "month" => some (1, 0, 0)
  | "fortnight" => some (0, 14, 0)
  | "week" => some (0, 7, 0)
  | "day" => some (0, 1, 0)
  | "hour" => some (0, 0, 3600)
  | "minute" | "min" => some (0, 0, 60)
  | "second" | "sec" => some (0, 0, 1)
  | _ => none

/-- A number that a word stands for. -/
def ordinal? (t : Bytes) : Option Int :=
  match shown t with
  | "last" => some (-1)
  | "this" => some 0
  | "next" | "first" => some 1
  | "third" => some 3
  | "fourth" => some 4
  | "fifth" => some 5
  | "sixth" => some 6
  | "seventh" => some 7
  | "eighth" => some 8
  | "ninth" => some 9
  | "tenth" => some 10
  | "eleventh" => some 11
  | "twelfth" => some 12
  | _ => none

namespace Described

/-- Steps so often as a unit tells. -/
def step (d : Described) (n : Int) (unit : Int × Int × Int) : Described :=
  { d with
    months := d.months + n * unit.1, days := d.days + n * unit.2.1
    seconds := d.seconds + n * unit.2.2 }

/-- The value of digits. -/
def value (ds : Bytes) : Nat := State.digitsNumber ds

/-- A step with a unit that may go back. -/
def stepped (d : Described) (n : Int) (unit : Int × Int × Int) (rest : List DateToken) :
    Described × List DateToken :=
  match rest with
  | .word w :: after =>
    if w = "ago".toList then (d.step (-n) unit, after) else (d.step n unit, rest)
  | _ => (d.step n unit, rest)

/-- A time with what follows it: seconds, a half of the day and a zone. -/
def withTime (d : Described) (hour minute : Nat) (rest : List DateToken) :
    Option (Described × List DateToken) :=
  let (second, rest) :=
    match rest with
    | .mark ':' :: .number none s :: .mark '.' :: .number none _ :: rest => (value s, rest)
    | .mark ':' :: .number none s :: rest => (value s, rest)
    | rest => (0, rest)
  let (hour?, rest) : Option Nat × List DateToken :=
    match rest with
    | .word w :: after =>
      if w = "am".toList then
        (if 1 ≤ hour && hour ≤ 12 then some (hour % 12) else none, after)
      else if w = "pm".toList then
        (if 1 ≤ hour && hour ≤ 12 then some (hour % 12 + 12) else none, after)
      else (some hour, rest)
    | rest => (some hour, rest)
  let zone (sign : Int) (ds : Bytes) : Int :=
    let n := value ds
    sign * (if ds.length ≤ 2 then (n : Int) * 3600 else ((n / 100 * 3600 + n % 100 * 60 : Nat) : Int))
  let (z, rest) : Option Int × List DateToken :=
    match rest with
    | .mark '+' :: .number none h :: .mark ':' :: .number none m :: rest =>
      (some ((value h * 3600 + value m * 60 : Nat) : Int), rest)
    | .mark '-' :: .number none h :: .mark ':' :: .number none m :: rest =>
      (some (-((value h * 3600 + value m * 60 : Nat) : Int)), rest)
    | .mark '+' :: .number none h :: rest' =>
      match rest' with
      | .word _ :: _ => (none, rest)
      | _ => (some (zone 1 h), rest')
    | .mark '-' :: .number none h :: rest' =>
      match rest' with
      | .word _ :: _ => (none, rest)
      | _ => (some (zone (-1) h), rest')
    | rest => (none, rest)
  match hour? with
  | none => none
  | some hour =>
    if 24 ≤ hour || 60 ≤ minute || 61 ≤ second || d.time.isSome then none
    else
      some ({ d with time := some (hour * 3600 + minute * 60 + second), zone := z <|> d.zone }, rest)

/-- The description with a date. -/
def withDate (d : Described) (year : Option Int) (month day : Nat) : Option Described :=
  if d.hasDate || month = 0 || 12 < month || day = 0 || 31 < day then none
  else some { d with year, month, day, hasDate := true }

/-- A year of two digits is one of this century or the last one. -/
def fullYear (ds : Bytes) : Int :=
  let n := value ds
  if ds.length ≤ 2 then if n < 69 then (n : Int) + 2000 else (n : Int) + 1900 else n

/-- The description after one more piece, and what follows. -/
def next (d : Described) : List DateToken → Option (Described × List DateToken)
  | [] => none
  | .mark '@' :: .number none ds :: .mark '.' :: .number none _ :: rest
  | .mark '@' :: .number none ds :: rest => some ({ d with instant := some (value ds : Int) }, rest)
  | .mark '@' :: .mark '-' :: .number none ds :: rest =>
    some ({ d with instant := some (-(value ds : Int)) }, rest)
  | .number none y :: .mark '-' :: .number none m :: .mark '-' :: .number none day :: rest =>
    let done := d.withDate (some (fullYear y)) (value m) (value day)
    match rest with
    | .word ['t'] :: rest => done.map fun d => (d, rest)
    | rest => done.map fun d => (d, rest)
  | .number none a :: .mark '/' :: .number none b :: .mark '/' :: .number none c :: rest =>
    if a.length = 4 then (d.withDate (some (value a)) (value b) (value c)).map fun d => (d, rest)
    else (d.withDate (some (fullYear c)) (value a) (value b)).map fun d => (d, rest)
  | .number none a :: .mark '/' :: .number none b :: rest =>
    (d.withDate d.year (value a) (value b)).map fun d => (d, rest)
  | .number none h :: .mark ':' :: .number none m :: rest => d.withTime (value h) (value m) rest
  | .number none n :: .mark '-' :: .word w :: .mark '-' :: .number none y :: rest =>
    match nameNumber? Moment.monthNames w with
    | some m => (d.withDate (some (fullYear y)) (m + 1) (value n)).map fun d => (d, rest)
    | none => none
  | .number none n :: .word w :: rest =>
    match nameNumber? Moment.monthNames w with
    | some m =>
      match rest with
      | .number none y :: .mark ':' :: after =>
        (d.withDate d.year (m + 1) (value n)).map fun d => (d, .number none y :: .mark ':' :: after)
      | .number none y :: rest =>
        (d.withDate (some (fullYear y)) (m + 1) (value n)).map fun d => (d, rest)
      | rest => (d.withDate d.year (m + 1) (value n)).map fun d => (d, rest)
    | none =>
      match unitStep? w with
      | some u => some (d.stepped (value n) u rest)
      | none =>
        if w = "am".toList || w = "pm".toList then d.withTime (value n) 0 (.word w :: rest)
        else none
  | .mark '+' :: .number none n :: .word w :: rest =>
    (unitStep? w).map fun u => d.stepped (value n) u rest
  | .mark '-' :: .number none n :: .word w :: rest =>
    (unitStep? w).map fun u => d.stepped (-(value n : Int)) u rest
  | .number none n :: rest =>
    if n.length = 8 && !d.hasDate then
      (d.withDate (some (value (n.take 4))) (value ((n.drop 4).take 2)) (value (n.drop 6))).map
        fun d => (d, rest)
    else if n.length = 4 && d.hasDate && d.time.isNone then
      d.withTime (value (n.take 2)) (value (n.drop 2)) rest
    else if n.length ≤ 2 && d.time.isNone then d.withTime (value n) 0 rest
    else if n.length = 4 && d.time.isNone then
      d.withTime (value (n.take 2)) (value (n.drop 2)) rest
    else none
  | .word w :: rest =>
    match shown w with
    | "now" => some (d, rest)
    | "today" => some (d, rest)
    | "yesterday" => some ({ d with days := d.days - 1 }, rest)
    | "tomorrow" => some ({ d with days := d.days + 1 }, rest)
    | "midnight" => d.withTime 0 0 rest
    | "noon" => d.withTime 12 0 rest
    | "utc" | "gmt" | "z" => some ({ d with zone := some 0 }, rest)
    | _ =>
      match nameNumber? Moment.monthNames w, rest with
      | some m, .number none n :: .number none y :: .mark ':' :: rest =>
        (d.withDate d.year (m + 1) (value n)).map fun d => (d, .number none y :: .mark ':' :: rest)
      | some m, .number none n :: .number none y :: rest =>
        (d.withDate (some (fullYear y)) (m + 1) (value n)).map fun d => (d, rest)
      | some m, .number none n :: rest =>
        (d.withDate d.year (m + 1) (value n)).map fun d => (d, rest)
      | _, _ =>
        match nameNumber? Moment.dayNames w with
        | some n => some ({ d with weekday := some n }, rest)
        | none =>
          match ordinal? w, rest with
          | some n, .word u :: rest =>
            match unitStep? u, nameNumber? Moment.dayNames u with
            | some unit, _ => some (d.stepped n unit rest)
            | none, some day => some ({ d with weekday := some day, weekdayStep := n }, rest)
            | none, none => none
          | _, _ =>
            match unitStep? w with
            | some u => some (d.stepped 1 u rest)
            | none => none
  | _ => none

/-- The description after all pieces. -/
def all : Nat → Described → List DateToken → Option Described
  | 0, _, _ => none
  | _ + 1, d, [] => some d
  | fuel + 1, d, ts =>
    match d.next ts with
    | some (d, rest) => all fuel d rest
    | none => none

/-- How many days a month has. -/
def daysIn (year : Int) (month : Nat) : Nat :=
  let next := if month = 12 then Moment.daysTo (year + 1) 1 1 else Moment.daysTo year (month + 1) 1
  (next - Moment.daysTo year month 1).toNat

/-- The instant that is described, when it is now. -/
def resolve (d : Described) (now : Int) : Option Int :=
  match d.instant with
  | some n => some (n + d.days * 86400 + d.seconds)
  | none =>
    let m := Moment.ofSeconds now
    let year := if d.hasDate then d.year.getD m.year else m.year
    let month := if d.hasDate then d.month else m.month
    let day := if d.hasDate then d.day else m.day
    if d.hasDate && daysIn year month < day then none
    else
      let isFixed := d.hasDate || d.time.isSome || d.weekday.isSome
      let clock : Int :=
        match d.time with
        | some t => t
        | none => if isFixed then 0 else ((m.hour * 3600 + m.minute * 60 + m.second : Nat) : Int)
      let total := (month : Int) - 1 + d.months
      let year := year + total.fdiv 12
      let month := (total.fmod 12).toNat + 1
      let days := Moment.daysTo year month day + d.days
      let days :=
        match d.weekday with
        | none => days
        | some w =>
          let today := (days + 4).fmod 7
          let ahead := ((w : Int) - today).fmod 7
          let step := d.weekdayStep
          let extra := if step = 0 then 0 else if 0 < step && ahead ≠ 0 then step - 1 else step
          days + ahead + 7 * extra
      some (days * 86400 + clock - d.zone.getD 0 + d.seconds)

end Described

/-- The instant that a text describes, when it is now. -/
def instantOf? (now : Int) (t : Bytes) : Option Int :=
  let tokens := dateTokens (t.length + 1) t
  let start : Described :=
    { year := none, month := 0, day := 0, hasDate := false, time := none, zone := none
      weekday := none, weekdayStep := 0, months := 0, days := 0, seconds := 0, instant := none }
  let start := if tokens.isEmpty then { start with time := some 0 } else start
  (start.all (tokens.length + 1) tokens).bind (·.resolve now)

/-- The instant of digits for a month, a day, an hour and a minute, with a year before or behind them
and seconds behind a point. -/
def stampOf? (now : Int) (yearFirst : Bool) (t : Bytes) : Option Int :=
  let main := t.takeWhile (· ≠ '.')
  let seconds := t.drop (main.length + 1)
  let ok := main.all Char.isDigit && seconds.all Char.isDigit &&
    (seconds.length = 2 || !t.contains '.')
  let n := main.length
  if !ok || !(n = 8 || n = 10 || n = 12) then none
  else
    let (year, rest) : Bytes × Bytes :=
      if yearFirst then (main.take (n - 8), main.drop (n - 8)) else (main.drop 8, main.take 8)
    let two (k : Nat) : Nat := State.digitsNumber ((rest.drop k).take 2)
    let y : Int :=
      if year.isEmpty then (Moment.ofSeconds now).year else Described.fullYear year
    let month := two 0
    let day := two 2
    if month = 0 || 12 < month || day = 0 || Described.daysIn y month < day || 24 ≤ two 4 || 60 ≤ two 6
    then none
    else
      some (Moment.daysTo y month day * 86400 + ((two 4 * 3600 + two 6 * 60 : Nat) : Int) +
        (State.digitsNumber seconds : Int))

/-! ## The program -/

/-- The format of a date that is asked for by a name. -/
def isoFormat? (precision : String) : Option String :=
  match precision with
  | "date" | "" => some "%Y-%m-%d"
  | "hours" => some "%Y-%m-%dT%H%:z"
  | "minutes" => some "%Y-%m-%dT%H:%M%:z"
  | "seconds" => some "%Y-%m-%dT%H:%M:%S%:z"
  | "ns" => some "%Y-%m-%dT%H:%M:%S,%N%:z"
  | _ => none

/-- Writes a date in a format. -/
def date : Tool := fun who args =>
  withWords who 1
    [valued 'd' "date", longOnly "debug" .nothing, valued 'f' "file", ⟨some 'I', "iso-8601", .perhaps⟩,
      valued 'r' "reference", flag 'R' "rfc-email", longOnly "rfc-3339" .argument, valued 's' "set",
      flag 'u' "utc", flag 'u' "universal"] false args fun w => do
    let s ← get
    let now := s.now
    let format? : Option String :=
      if w.has "R" then some "%a, %d %b %Y %H:%M:%S %z"
      else if w.has "I" then isoFormat? (((w.value? "I").map shown).getD "")
      else
        match (w.value? "rfc-3339").map shown with
        | some "date" => some "%Y-%m-%d"
        | some "seconds" => some "%Y-%m-%d %H:%M:%S%:z"
        | some "ns" => some "%Y-%m-%d %H:%M:%S.%N%:z"
        | _ => none
    let write (instant : Int) (format : Bytes) : Act Unit :=
      output who ((Moment.ofSeconds instant).text format ++ ['\n']) 0
    let formatted (format : Bytes) : Act Unit := do
      match w.value? "d", w.value? "r" with
      | some t, _ =>
        match instantOf? now t with
        | some instant => write instant format
        | none => fail who 1 ("invalid date " ++ quotedText t)
      | none, some path =>
        match s.find path with
        | .error f => fail who 1 (named path ++ ": " ++ f.reason)
        | .ok (.file (.regular n)) =>
          write (((s.machine.nodes[n]?).map Node.stamp).getD 0 + State.epoch) format
        | .ok _ => write State.epoch format
      | none, none => write now format
    match w.operands with
    | [] => formatted ((format?.getD "%a %b %e %H:%M:%S %Z %Y").toList)
    | ('+' :: format) :: [] =>
      if format?.isSome then fail who 1 "multiple output formats specified" else formatted format
    | [other] => fail who 1 ("invalid date " ++ quotedText other)
    | _ :: extra :: _ => extraOperand who 1 extra

end Provision.Shell.Tool
