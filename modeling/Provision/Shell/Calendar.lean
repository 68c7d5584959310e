import Provision.Shell.Syntax

/-!
# Dates

Instants as days and times of the calendar, in universal time, and the texts that formats make of
them.
-/

namespace Provision.Shell

/-- A day and a time. -/
structure Moment where
  /-- Seconds since the start of 1970. -/
  seconds : Int
  nanoseconds : Nat
  year : Int
  month : Nat
  day : Nat
  hour : Nat
  minute : Nat
  second : Nat
  /-- Days since Sunday, and since the first day of the year. -/
  weekday : Nat
  yearDay : Nat
  deriving Repr

namespace Moment

/-- Days from the start of 1970 to a day. -/
def daysTo (year : Int) (month day : Nat) : Int :=
  let y := if month ≤ 2 then year - 1 else year
  let era := y.fdiv 400
  let yearOfEra := y - era * 400
  let shifted : Int := if month > 2 then (month : Int) - 3 else (month : Int) + 9
  let dayOfYear := (153 * shifted + 2).fdiv 5 + day - 1
  let dayOfEra := yearOfEra * 365 + yearOfEra.fdiv 4 - yearOfEra.fdiv 100 + dayOfYear
  era * 146097 + dayOfEra - 719468

/-- The day and time of an instant. -/
def ofSeconds (seconds : Int) : Moment :=
  let days := seconds.fdiv 86400
  let time := (seconds - days * 86400).toNat
  let z := days + 719468
  let era := z.fdiv 146097
  let dayOfEra := z - era * 146097
  let yearOfEra :=
    (dayOfEra - dayOfEra.fdiv 1460 + dayOfEra.fdiv 36524 - dayOfEra.fdiv 146096).fdiv 365
  let dayOfYear := dayOfEra - (365 * yearOfEra + yearOfEra.fdiv 4 - yearOfEra.fdiv 100)
  let shifted := (5 * dayOfYear + 2).fdiv 153
  let day := (dayOfYear - (153 * shifted + 2).fdiv 5 + 1).toNat
  let month := (if shifted < 10 then shifted + 3 else shifted - 9).toNat
  let year := yearOfEra + era * 400 + (if month ≤ 2 then 1 else 0)
  ⟨seconds, 0, year, month, day, time / 3600, time / 60 % 60, time % 60,
    ((days + 4).fmod 7).toNat, (days - daysTo year 1 1).toNat⟩

/-- The names of the days. -/
def dayNames : List String :=
  ["Sunday", "Monday", "Tuesday", "Wednesday", "Thursday", "Friday", "Saturday"]

/-- The names of the months. -/
def monthNames : List String :=
  ["January", "February", "March", "April", "May", "June", "July", "August", "September",
    "October", "November", "December"]

/-- A number with so many places, filled with a byte. -/
def filled (width : Nat) (fill : Char) (n : Int) : Bytes :=
  let ds := (toString n.natAbs).toList
  (if n < 0 then ['-'] else []) ++ List.replicate (width - ds.length) fill ++ ds

/-- The year and week by the rule that a week belongs to the year of its Thursday. -/
def isoWeek (m : Moment) : Int × Nat :=
  let fromMonday := (m.weekday + 6) % 7
  let thursday : Int := (m.yearDay : Int) - fromMonday + 3
  let days := daysTo m.year 1 1
  let t := ofSeconds ((days + thursday) * 86400)
  (t.year, t.yearDay / 7 + 1)

/-- What a letter of a format stands for, with the byte that fills a number, if one is asked for. -/
def field (m : Moment) (fill : Option Char) (c : Char) : Option Bytes :=
  let two (n : Nat) : Option Bytes := some (filled 2 (fill.getD '0') n)
  let blankTwo (n : Nat) : Option Bytes := some (filled 2 (fill.getD ' ') n)
  let name (names : List String) (i : Nat) : Bytes := ((names[i]?).getD "").toList
  let hour12 := if m.hour % 12 = 0 then 12 else m.hour % 12
  let colon (parts : List Bytes) : Option Bytes := some ([':'].intercalate parts)
  let z (n : Nat) : Bytes := filled 2 '0' n
  match c with
  | 'Y' => some (filled 4 (fill.getD '0') m.year)
  | 'C' => two (m.year.fdiv 100).toNat
  | 'y' => two (m.year.fmod 100).toNat
  | 'm' => two m.month
  | 'd' => two m.day
  | 'e' => blankTwo m.day
  | 'H' => two m.hour
  | 'k' => blankTwo m.hour
  | 'I' => two hour12
  | 'l' => blankTwo hour12
  | 'M' => two m.minute
  | 'S' => two m.second
  | 'N' => some (filled 9 '0' m.nanoseconds)
  | 'j' => some (filled 3 (fill.getD '0') (m.yearDay + 1 : Nat))
  | 'p' => some (if m.hour < 12 then "AM" else "PM").toList
  | 'P' => some (if m.hour < 12 then "am" else "pm").toList
  | 'a' => some ((name dayNames m.weekday).take 3)
  | 'A' => some (name dayNames m.weekday)
  | 'b' | 'h' => some ((name monthNames (m.month - 1)).take 3)
  | 'B' => some (name monthNames (m.month - 1))
  | 'u' => some (toString (if m.weekday = 0 then 7 else m.weekday)).toList
  | 'w' => some (toString m.weekday).toList
  | 'U' => two ((m.yearDay + 7 - m.weekday) / 7)
  | 'W' => two ((m.yearDay + 7 - (m.weekday + 6) % 7) / 7)
  | 'V' => two m.isoWeek.2
  | 'G' => some (filled 4 '0' m.isoWeek.1)
  | 'g' => two (m.isoWeek.1.fmod 100).toNat
  | 's' => some (toString m.seconds).toList
  | 'Z' => some "UTC".toList
  | 'z' => some "+0000".toList
  | 'F' =>
    some (filled 4 '0' m.year ++ '-' :: z m.month ++ '-' :: z m.day)
  | 'D' | 'x' => some (z m.month ++ '/' :: z m.day ++ '/' :: z (m.year.fmod 100).toNat)
  | 'T' | 'X' => colon [z m.hour, z m.minute, z m.second]
  | 'R' => colon [z m.hour, z m.minute]
  | 'r' =>
    some ([':'].intercalate [z hour12, z m.minute, z m.second] ++
      (if m.hour < 12 then " AM" else " PM").toList)
  | 'c' =>
    some ((name dayNames m.weekday).take 3 ++ ' ' :: (name monthNames (m.month - 1)).take 3 ++
      ' ' :: filled 2 ' ' m.day ++ ' ' :: [':'].intercalate [z m.hour, z m.minute, z m.second] ++
      ' ' :: filled 4 '0' m.year)
  | 'n' => some ['\n']
  | 't' => some ['\t']
  | '%' => some ['%']
  | _ => none

/-- The text that a format makes of a moment. -/
def format (m : Moment) : Nat → Bytes → Bytes
  | 0, _ | _ + 1, [] => []
  | fuel + 1, '%' :: rest =>
    let (fill, upper, rest) : Option Char × Bool × Bytes :=
      match rest with
      | '-' :: rest => (some '\x00', false, rest)
      | '_' :: rest => (some ' ', false, rest)
      | '0' :: rest => (some '0', false, rest)
      | '^' :: rest => (none, true, rest)
      | rest => (none, false, rest)
    match rest with
    | c :: rest =>
      match m.field fill c with
      | some text =>
        let text := text.filter (· ≠ '\x00')
        (if upper then text.map Char.toUpper else text) ++ format m fuel rest
      | none => '%' :: c :: format m fuel rest
    | [] => ['%']
  | fuel + 1, c :: rest => c :: format m fuel rest

/-- The text that a format makes of a moment. -/
def text (m : Moment) (format : Bytes) : Bytes := m.format (format.length + 1) format

end Moment

end Provision.Shell
