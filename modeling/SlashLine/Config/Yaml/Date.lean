import SlashLine.Text.Radix
import SlashLine.Text.Search
import SlashLine.Timestamp

/-!
# Dates in YAML

Dates as they are written, with a time of day and a time zone or without.

* `writtenDate?`: the parts of a date.
* `WrittenDate.parts`: what they stand for.
-/

namespace SlashLine.Config.Yaml

/-- The digits a text starts with, from `least` to `most` of them, and what follows. -/
def takeDigits? (least most : Nat) (cs : List Char) : Option (List Char × List Char) :=
  let ds := (cs.take most).takeWhile Char.isDigit
  if least ≤ ds.length then some (ds, cs.drop ds.length) else none

/-- A date as it is written, by its parts. -/
structure WrittenDate where
  year : List Char
  month : List Char
  day : List Char
  /-- Hour, minute, second and the fraction of a second. -/
  time : Option (List Char × List Char × List Char × List Char) := none
  /-- The sign of a time zone, and its hours and minutes. -/
  zone : Option (Char × List Char × List Char) := none
  deriving Repr

/-- What follows the gap between a date and a time. -/
def afterDateGap? : List Char → Option (List Char)
  | 'T' :: rest => some rest
  | 't' :: rest => some rest
  | c :: rest =>
    if c == ' ' || c == '\t' then some (rest.dropWhile fun d => d == ' ' || d == '\t') else none
  | [] => none

/-- The time zone that takes up the rest of a text. -/
def writtenZone? (cs : List Char) : Option (Option (Char × List Char × List Char)) :=
  match cs.dropWhile fun c => c == ' ' || c == '\t' with
  | [] => if cs.isEmpty then some none else none
  | ['Z'] => some (some ('+', ['0'], []))
  | sign :: ds =>
    if sign == '+' || sign == '-' then
      match takeDigits? 1 2 ds with
      | some (hours, []) => some (some (sign, hours, []))
      | some (hours, ':' :: minutes) =>
        if minutes.length == 2 && minutes.all Char.isDigit then some (some (sign, hours, minutes))
        else none
      | _ => none
    else none

/-- The date that a text spells: months, days and hours may have one digit. -/
def writtenDate? (cs : List Char) : Option WrittenDate := do
  let (year, cs) ← takeDigits? 4 4 cs
  let (month, cs) ← takeDigits? 1 2 (← Text.after? '-' cs)
  let (day, cs) ← takeDigits? 1 2 (← Text.after? '-' cs)
  if cs.isEmpty then return { year, month, day }
  else
    let (hour, cs) ← takeDigits? 1 2 (← afterDateGap? cs)
    let (minute, cs) ← takeDigits? 2 2 (← Text.after? ':' cs)
    let (second, cs) ← takeDigits? 2 2 (← Text.after? ':' cs)
    let (fraction, cs) := match cs with
      | '.' :: rest => (rest.takeWhile Char.isDigit, rest.dropWhile Char.isDigit)
      | cs => ([], cs)
    return { year, month, day, time := some (hour, minute, second, fraction)
             zone := ← writtenZone? cs }

/-- What the parts stand for. Of a fraction the first six digits count. -/
def WrittenDate.parts (d : WrittenDate) : Timestamp.Parts :=
  let number (ds : List Char) := Text.numberOf 10 ds
  let zone := d.zone.map fun (sign, hours, minutes) =>
    let micros : Int := ((number hours * 3600 + number minutes * 60) * Timestamp.second : Nat)
    if sign == '-' then -micros else micros
  let (hour, minute, second, fraction) := d.time.getD ([], [], [], [])
  { year := number d.year, month := number d.month, day := number d.day, hour := number hour
    minute := number minute, second := number second
    micros := number (fraction.take 6) * Nat.pow 10 (6 - fraction.length), zone }

/-- A text without the line break it ends in. -/
def dropLastBreak (cs : List Char) : List Char :=
  if cs.getLast? == some '\n' then cs.dropLast else cs

end SlashLine.Config.Yaml
