import SlashLine.Numeric.Arithmetic
import SlashLine.Numeric.Numeral
import SlashLine.Text.Radix
import SlashLine.Text.Search
import SlashLine.Timestamp

/-!
# Reading points in time

A point in time is given as a date, with or without a time of day and a time zone, or as a number:
how many seconds it lies after the start of the year 1970 in universal time. So many that they
would lead beyond the year 2603 are milliseconds.

* `Timestamp.read`: the point in time that a text names.
-/

namespace SlashLine.Timestamp

/-- Why a text names no point in time. -/
inductive Unreadable where
  /-- It is neither a date nor a number, or one that is out of bounds. -/
  | form
  /-- Every part is within its bounds, but there is no year zero. -/
  | yearZero
  deriving DecidableEq, Repr

/-! ## Dates and times of day -/

/-- The number that exactly so many ASCII digits spell, and what follows. -/
def takeNumber? (width : Nat) (cs : List Char) : Option (Nat × List Char) :=
  let digits := (cs.take width).takeWhile Char.isDigit
  if digits.length = width then some (Text.numberOf 10 digits, cs.drop width) else none

/-- Year, month and day with dashes between them, and what follows. -/
def takeDate? (cs : List Char) : Option (Parts × List Char) := do
  let (year, cs) ← takeNumber? 4 cs
  let (month, cs) ← takeNumber? 2 (← Text.after? '-' cs)
  let (day, cs) ← takeNumber? 2 (← Text.after? '-' cs)
  return ({ year, month, day }, cs)

/-- The microseconds of a fraction of a second, if there is one after a point or a comma, and what
follows. Only its first six digits count. -/
def takeFraction? : List Char → Option (Nat × List Char)
  | c :: cs =>
    if c == '.' || c == ',' then
      let digits := cs.takeWhile Char.isDigit
      let counted := digits.take 6
      if digits.isEmpty then none
      else some (Text.numberOf 10 counted * Nat.pow 10 (6 - counted.length), cs.drop digits.length)
    else some (0, c :: cs)
  | [] => some (0, [])

/-- A date with hours and minutes, with seconds or without, and what follows. -/
def takeClock? (date : Parts) (cs : List Char) : Option (Parts × List Char) := do
  let (hour, cs) ← takeNumber? 2 cs
  let (minute, cs) ← takeNumber? 2 (← Text.after? ':' cs)
  match cs with
  | ':' :: cs =>
    let (second, cs) ← takeNumber? 2 cs
    let (micros, cs) ← takeFraction? cs
    return ({ date with hour, minute, second, micros }, cs)
  | cs => return ({ date with hour, minute }, cs)

/-- The time zone that takes up the rest of a text, if there is a rest: a letter, or a sign with
hours and minutes. -/
def zoneOf? : List Char → Option (Option Int)
  | [] => some none
  | ['Z'] => some (some 0)
  | ['z'] => some (some 0)
  | sign :: cs =>
    if sign == '+' || sign == '-' || sign == '\u2212' then do
      let (hours, cs) ← takeNumber? 2 cs
      let (minutes, cs) ← takeNumber? 2 ((Text.after? ':' cs).getD cs)
      let micros : Int := ((hours * 3600 + minutes * 60) * second : Nat)
      if 59 < minutes || !cs.isEmpty then none
      else some (some (if sign == '+' then micros else -micros))
    else none

/-- The parts of a date, and of the time of day after it, if there is one. -/
def partsOf? (cs : List Char) : Option Parts := do
  let (date, cs) ← takeDate? cs
  match cs with
  | [] => return date
  | gap :: cs =>
    if gap == 'T' || gap == 't' || gap == ' ' || gap == '_' then
      let (parts, cs) ← takeClock? date cs
      return { parts with zone := ← zoneOf? cs }
    else none

/-! ## Numbers -/

/-- The seconds before a year. -/
def secondsBeforeYear (year : Nat) : Nat := daysBeforeYear year * daySeconds

/-- The most seconds; a greater count is one of milliseconds. -/
def mostSeconds : Nat := 20000000000

/-- The point in time after so many seconds or milliseconds and so many microseconds, unless it lies
outside of the years from 1600 to 9999. -/
def ofCount? (count : Int) (micros : Nat) : Option Timestamp :=
  let sinceStart : Int :=
    if count.natAbs ≤ mostSeconds then count * second else count * (second / 1000 : Nat)
  let total : Int := (secondsBeforeYear 1970 * second : Nat) + sinceStart + micros
  if secondsBeforeYear 1600 * second ≤ total && total < secondsBeforeYear 10000 * second then
    some { micros := total.toNat, zone := some 0 }
  else none

/-- A number with digits added behind its point. It is rounded after each of them. -/
def withFraction (x : Binary64) (digits : List Char) : Binary64 :=
  (digits.foldl (fun (x, den) d =>
    (x.add (.ofUnits false (Text.numberOf 10 [d] * Binary64.one) den), 10 * den)) (x, 10)).1

/-- The point in time after a number of seconds or milliseconds with a fraction. What is left of it
beyond whole seconds is a number of its own, which is rounded to microseconds. -/
def ofFractional? (x : Binary64) : Option Timestamp := do
  let count := (← x.units?).natAbs
  let x := if mostSeconds * Binary64.one < count then x.divBy 1000 else x
  let seconds ← x.floor?
  let left := x.add (← Binary64.ofInt? seconds).negate
  ofCount? seconds (← (left.mul (← Binary64.ofInt? second)).nearest?)

/-- The point in time that a number stands for: a sign, if there is one, digits, and digits behind a
point, of which there may be none. -/
def ofNumber? (cs : List Char) : Option Timestamp := do
  let (negative, unsigned) := Numeral.takeSign cs
  let digits := unsigned.takeWhile Char.isDigit
  let whole : Int := Text.numberOf 10 digits
  if digits.isEmpty then none
  else match unsigned.drop digits.length with
    | [] => ofCount? (if negative then -whole else whole) 0
    | '.' :: fraction =>
      if fraction.all Char.isDigit then
        let x := withFraction (← Binary64.ofInt? whole) fraction
        ofFractional? (if negative then x.negate else x)
      else none
    | _ => none

/-! ## All together -/

/-- The point in time that a text names. -/
def read (s : String) : Except Unreadable Timestamp :=
  match partsOf? s.toList with
  | some parts =>
    match parts.faultInYear?, parts.timestamp with
    | none, .ok t => .ok t
    | none, .error (.year _) => .error .yearZero
    | _, _ => .error .form
  | none =>
    match ofNumber? s.toList with
    | some t => .ok t
    | none => .error .form

end SlashLine.Timestamp
