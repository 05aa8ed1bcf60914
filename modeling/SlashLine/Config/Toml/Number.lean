import SlashLine.Config.Trouble
import SlashLine.Scalar
import SlashLine.Text.Search

/-!
# Numbers and dates in TOML

Whole numbers to the bases 10, 16, 8 and 2, floating-point numbers, dates and times. Single
underscores may stand between digits.

* `takeNumber`, `takeMoment?`: a number, or a date or time, and what follows it.
-/

namespace SlashLine.Config.Toml

/-! ## Numbers -/

/-- Digits of a kind, single underscores between them left out, and what follows. -/
def takeGrouped (p : Char → Bool) : List Char → List Char × List Char
  | '_' :: c :: rest =>
    if p c then
      let (cs, rest) := takeGrouped p rest
      (c :: cs, rest)
    else ([], '_' :: c :: rest)
  | c :: rest =>
    if p c then
      let (cs, rest) := takeGrouped p rest
      (c :: cs, rest)
    else ([], c :: rest)
  | [] => ([], [])

/-- At least one digit of a kind, and what follows. -/
def takeDigits? (p : Char → Bool) : List Char → Option (List Char × List Char)
  | c :: rest =>
    if p c then
      let (cs, rest) := takeGrouped p rest
      some (c :: cs, rest)
    else none
  | [] => none

/-- The whole number that digits of a base spell, and what follows. -/
def takeNumberTo? (base : Nat) (cs : List Char) : Option (Nat × List Char) :=
  (takeDigits? (Text.isDigitOf base) cs).map fun (ds, rest) => (Text.numberOf base ds, rest)

/-- A whole number to another base than ten, after its zero, and what follows. -/
def takeBased? : List Char → Option (Nat × List Char)
  | 'x' :: rest => takeNumberTo? 16 rest
  | 'o' :: rest => takeNumberTo? 8 rest
  | 'b' :: rest => takeNumberTo? 2 rest
  | _ => none

/-- The whole part of a decimal number, and what follows: a zero alone, or digits that do not start
with one. -/
def takeWhole? (cs : List Char) : Option (List Char × List Char) :=
  match cs with
  | '0' :: rest => some (['0'], rest)
  | cs => takeDigits? Char.isDigit cs

/-- A point and digits, if they are there, and what follows. -/
def takeFraction (cs : List Char) : List Char × List Char :=
  match cs with
  | '.' :: rest =>
    match takeDigits? Char.isDigit rest with
    | some (ds, rest) => ('.' :: ds, rest)
    | none => ([], cs)
  | _ => ([], cs)

/-- A sign, if there is one, and what follows. -/
def takeSign : List Char → List Char × List Char
  | '+' :: rest => (['+'], rest)
  | '-' :: rest => (['-'], rest)
  | cs => ([], cs)

/-- A power of ten, if one is there, and what follows. -/
def takePower (cs : List Char) : List Char × List Char :=
  match cs with
  | e :: rest =>
    let (sign, rest) := takeSign rest
    match (if e == 'e' || e == 'E' then takeDigits? Char.isDigit rest else none) with
    | some (ds, rest) => ('e' :: sign ++ ds, rest)
    | none => ([], cs)
  | [] => ([], cs)

/-- A decimal number, and what follows. With a fraction or a power it is a floating-point number.
None if there is no number here. -/
def takeDecimal? (cs : List Char) : Option (Except Trouble Scalar × List Char) := do
  let (sign, unsigned) := takeSign cs
  let (whole, rest) ← takeWhole? unsigned
  let (fraction, rest) := takeFraction rest
  let (power, rest) := takePower rest
  if fraction.isEmpty && power.isEmpty then
    let n := Whole.ofDecimal (sign == ['-']) whole
    return ((n.map Scalar.int).mapError (.ofWhole 10 (.ofChars whole)), rest)
  else
    let numeral ← Numeral.readList? (sign ++ whole ++ fraction ++ power)
    return (.ok (.float numeral.toBinary64), rest)

/-- A number that is not finite, and what follows. -/
def takeSpecial? (cs : List Char) : Option (Scalar × List Char) :=
  let (sign, unsigned) := takeSign cs
  match unsigned with
  | 'i' :: 'n' :: 'f' :: rest => some (.float (.infinite (sign == ['-'])), rest)
  | 'n' :: 'a' :: 'n' :: rest => some (.float .nan, rest)
  | _ => none

/-- A number, and what follows. -/
def takeNumber (cs : List Char) : Except Trouble (Scalar × List Char) :=
  let based : Option (Scalar × List Char) := match cs with
    | '0' :: rest => (takeBased? rest).map fun (n, rest) => (Scalar.int (n : Int), rest)
    | _ => none
  match based, takeDecimal? cs, takeSpecial? cs with
  | some (n, rest), _, _ => .ok (n, rest)
  | none, some (x, rest), _ => x.map fun s => (s, rest)
  | none, none, some (x, rest) => .ok (x, rest)
  | none, none, none => .error .malformed

/-! ## Dates and times -/

/-- The number that two digits spell, if it is in a range, and what follows. -/
def takeTwo? (least most : Nat) : List Char → Option (Nat × List Char)
  | a :: b :: rest =>
    let n := Text.numberOf 10 [a, b]
    if a.isDigit && b.isDigit && least ≤ n && n ≤ most then some (n, rest) else none
  | _ => none

/-- What follows a time of day: hours, minutes, seconds and perhaps a fraction. -/
def afterTime? (cs : List Char) : Option (List Char) := do
  let (_, cs) ← takeTwo? 0 23 cs
  let (_, cs) ← takeTwo? 0 59 (← Text.after? ':' cs)
  let (_, cs) ← takeTwo? 0 59 (← Text.after? ':' cs)
  some <| match cs with
    | '.' :: c :: rest => if c.isDigit then rest.dropWhile Char.isDigit else cs
    | cs => cs

/-- What follows a time zone, if there is one. -/
def afterZone (cs : List Char) : List Char :=
  match cs with
  | [] => []
  | c :: rest =>
    if c == 'Z' || c == 'z' then rest
    else if c == '+' || c == '-' then
      let zone : Option (List Char) := do
        let (_, cs) ← takeTwo? 0 23 rest
        let (_, cs) ← takeTwo? 0 59 (← Text.after? ':' cs)
        return cs
      zone.getD cs
    else cs

/-- What follows a date, and whether there is such a day. -/
def afterDate? (cs : List Char) : Option (Bool × List Char) := do
  let year := cs.take 4
  if year.length != 4 || !year.all Char.isDigit then none
  else
    let (month, cs) ← takeTwo? 1 12 (← Text.after? '-' (cs.drop 4))
    let (day, cs) ← takeTwo? 1 31 (← Text.after? '-' cs)
    let y := Text.numberOf 10 year
    return (y != 0 && day ≤ Timestamp.monthDays y month, cs)

/-- What follows the time of a date, if it has one. -/
def afterDateTime (cs : List Char) : List Char :=
  match cs with
  | c :: rest =>
    if c == 'T' || c == 't' || c == ' ' then
      match afterTime? rest with
      | some rest => afterZone rest
      | none => cs
    else cs
  | [] => []

/-- The text between a place and a later one. -/
def textUpTo (cs rest : List Char) : String := String.ofList (cs.take (cs.length - rest.length))

/-- A date or a time of day as it is written, and what follows; the text is wrong if there is no
such day. None if there is no date or time here. -/
def takeMoment? (cs : List Char) : Option (Option Scalar × List Char) :=
  match afterDate? cs with
  | some (isDay, rest) =>
    let rest := afterDateTime rest
    some (if isDay then some (.moment (textUpTo cs rest)) else none, rest)
  | none => (afterTime? cs).map fun rest => (some (.moment (textUpTo cs rest)), rest)

end SlashLine.Config.Toml
