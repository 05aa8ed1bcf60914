/-!
# Points in time

A day of the Gregorian calendar and a time of day, counted in microseconds from the start of the
year 1 and written in the ISO form. The clock may be known to be ahead of universal time, or behind.

* `Parts.timestamp`: the point in time that its parts name, if there is one.
* `iso`: the written form.
* `clockTime`: hours, minutes and seconds.
-/

namespace SlashLine

/-- What a clock shows. -/
structure Timestamp where
  /-- Microseconds since the start of the year 1. -/
  micros : Nat
  /-- How many microseconds the clock is ahead of universal time, if that is known. -/
  zone : Option Int := none
  deriving DecidableEq, Repr

namespace Timestamp

instance : Inhabited Timestamp := ⟨{ micros := 0 }⟩

/-- The number of microseconds in a second. -/
def second : Nat := 1000000

/-- The number of seconds in a day. -/
def daySeconds : Nat := 86400

/-- The number of microseconds in a day. -/
def aDay : Int := daySeconds * second

/-! ## The calendar -/

/-- Years with a 29th of February. -/
def isLeapYear (year : Nat) : Bool := year % 4 == 0 && (year % 100 != 0 || year % 400 == 0)

/-- The number of days in a month, counted from 1. -/
def monthDays (year month : Nat) : Nat :=
  match month with
  | 2 => if isLeapYear year then 29 else 28
  | 4 | 6 | 9 | 11 => 30
  | _ => 31

/-- The days before a year. -/
def daysBeforeYear (year : Nat) : Nat :=
  let y := year - 1
  365 * y + y / 4 - y / 100 + y / 400

/-- The days before a month of a year. -/
def daysBeforeMonth (year month : Nat) : Nat :=
  (List.range (month - 1)).foldl (fun days m => days + monthDays year (m + 1)) 0

/-- The year that day number `day` lies in, counted from 0: at the guess or after it. -/
def yearFrom (day guess : Nat) : Nat → Nat
  | 0 => guess
  | more + 1 => if daysBeforeYear (guess + 1) ≤ day then yearFrom day (guess + 1) more else guess

/-- The month and the day of the month of a day of a year, counted from 0. -/
def monthFrom (year rest month : Nat) : Nat → Nat × Nat
  | 0 => (month, rest + 1)
  | more + 1 =>
    if monthDays year month ≤ rest then
      monthFrom year (rest - monthDays year month) (month + 1) more
    else (month, rest + 1)

/-- Year, month and day of the month of a day, counted from 0. -/
def dateOfDay (day : Nat) : Nat × Nat × Nat :=
  let guess := day / 366 + 1
  let year := yearFrom day guess (day + 1 - guess)
  let (month, dayOfMonth) := monthFrom year (day - daysBeforeYear year) 1 11
  (year, month, dayOfMonth)

/-- Year, month and day. -/
def date (t : Timestamp) : Nat × Nat × Nat := dateOfDay (t.micros / second / daySeconds)

/-- The point in time of a date, a second of the day and a fraction. -/
def ofDate (year month day seconds micros : Nat) : Timestamp :=
  let days := daysBeforeYear year + daysBeforeMonth year month + (day - 1)
  { micros := (days * daySeconds + seconds) * second + micros }

/-- A point in time so many seconds later. -/
def addSeconds (t : Timestamp) (seconds : Nat) : Timestamp :=
  { t with micros := t.micros + seconds * second }

/-! ## Text -/

/-- A number with zeros before it, as wide as asked for. -/
def padded (width n : Nat) : String :=
  let ds := toString n
  String.ofList (List.replicate (width - ds.length) '0') ++ ds

/-- The time of day. -/
def clockTime (t : Timestamp) : String :=
  let s := t.micros / second % daySeconds
  padded 2 (s / 3600) ++ ":" ++ padded 2 (s / 60 % 60) ++ ":" ++ padded 2 (s % 60)

/-- A point and six digits, if there is a fraction of a second. -/
def fractionText (micros : Nat) : String :=
  if micros = 0 then "" else "." ++ padded 6 micros

/-- How far a clock is ahead of universal time: a sign, hours and minutes, and seconds if there are
any. -/
def zoneText (zone : Int) : String :=
  let micros := zone.natAbs
  let seconds := micros / second
  (if zone < 0 then "-" else "+") ++ padded 2 (seconds / 3600) ++ ":" ++
    padded 2 (seconds / 60 % 60) ++
    (if micros % (60 * second) = 0 then ""
      else ":" ++ padded 2 (seconds % 60) ++ fractionText (micros % second))

/-- The ISO form, with a fraction and a time zone if there are any. -/
def iso (t : Timestamp) : String :=
  let (year, month, day) := t.date
  padded 4 year ++ "-" ++ padded 2 month ++ "-" ++ padded 2 day ++ "T" ++ t.clockTime ++
    fractionText (t.micros % second) ++ (t.zone.map zoneText).getD ""

/-! ## Parts -/

/-- What is wrong with parts that are to name a point in time. -/
inductive Fault where
  | year (n : Nat)
  | month
  | day
  | hour
  | minute
  | second
  /-- The clock is a day or more ahead or behind. -/
  | zone (micros : Int)
  deriving DecidableEq, Repr

/-- A span of time by its days, seconds and microseconds, of which only the days can be
negative. -/
def spanText (micros : Int) : String :=
  let seconds := micros / second
  let parts := [("days", seconds / daySeconds), ("seconds", seconds % daySeconds),
    ("microseconds", micros % second)].filter (·.2 != 0)
  let shown := if parts.isEmpty then ["0"] else parts.map fun (name, n) => name ++ "=" ++ toString n
  "datetime.timedelta(" ++ ", ".intercalate shown ++ ")"

namespace Fault

/-- What is said about a fault. -/
def message : Fault → String
  | year n => "year " ++ toString n ++ " is out of range"
  | month => "month must be in 1..12"
  | day => "day is out of range for month"
  | hour => "hour must be in 0..23"
  | minute => "minute must be in 0..59"
  | second => "second must be in 0..59"
  | zone micros =>
    "offset must be a timedelta strictly between -timedelta(hours=24) and " ++
      "timedelta(hours=24), not " ++ spanText micros ++ "."

end Fault

/-- The parts of a point in time, as they are written. -/
structure Parts where
  year : Nat
  month : Nat
  day : Nat
  hour : Nat := 0
  minute : Nat := 0
  second : Nat := 0
  micros : Nat := 0
  zone : Option Int := none
  deriving DecidableEq, Repr

namespace Parts

/-- What is wrong with the parts within a year: the largest one counts first. -/
def faultInYear? (p : Parts) : Option Fault :=
  if p.month < 1 || 12 < p.month then some .month
  else if p.day < 1 || monthDays p.year p.month < p.day then some .day
  else if 23 < p.hour then some .hour
  else if 59 < p.minute then some .minute
  else if 59 < p.second then some .second
  else none

/-- What is wrong with the parts: the time zone counts first, then the largest part. -/
def fault? (p : Parts) : Option Fault :=
  match p.zone.filter fun z => z ≤ -aDay || aDay ≤ z with
  | some z => some (.zone z)
  | none => if p.year = 0 || 9999 < p.year then some (.year p.year) else p.faultInYear?

/-- The point in time that its parts name. -/
def timestamp (p : Parts) : Except Fault Timestamp :=
  match p.fault? with
  | some f => .error f
  | none =>
    .ok { ofDate p.year p.month p.day (p.hour * 3600 + p.minute * 60 + p.second) p.micros with
      zone := p.zone }

end Parts

end Timestamp

end SlashLine
