import SlashLine.Numeric.Binary64

/-!
# Shortest decimals

The shortest decimal that reads back as a given number, and the texts it is written as.

* `shortest`: of the decimals that are nearer to this number than to any other, one with the fewest
  digits, and of those the nearest.
* `DecimalStyle.write`: a decimal with its point in place, or with a power of ten.
-/

namespace SlashLine

/-- The decimal `0.d₁d₂… · 10 ^ point`. -/
structure Decimal where
  digits : List Char
  point : Int
  deriving DecidableEq, Repr

/-- The decimals that read back as a number lie between two bounds, all in quarters of a unit. The
bounds belong to them if the significand is even. -/
structure Neighbourhood where
  value : Nat
  low : Nat
  high : Nat
  closed : Bool
  deriving DecidableEq, Repr

namespace Neighbourhood

/-- The numbers that are rounded to the given one. Below a power of two the gap is half as wide. -/
def ofUnits (units : Nat) : Neighbourhood :=
  let spare := units.log2 - 52
  let step := Nat.pow 2 spare
  let lead := units / step
  { value := 4 * units
    low := 4 * units - (if lead == Binary64.hiddenBit && 0 < spare then step else 2 * step)
    high := 4 * units + 2 * step
    closed := lead % 2 == 0 }

/-- `num / den` lies in the neighbourhood. -/
def contains (n : Neighbourhood) (num den : Nat) : Bool :=
  if n.closed then n.low * den ≤ num && num ≤ n.high * den
  else n.low * den < num && num < n.high * den

end Neighbourhood

/-- How far apart two numbers are. -/
def gap (a b : Nat) : Nat := (a - b) + (b - a)

/-- The nearest multiple of `10 ^ place` in the neighbourhood, as a count of `10 ^ place`; none if
there is none. Of two equally near ones it is the even one. A quarter of a unit is `2⁻¹⁰⁷⁶`. -/
def onGrid? (n : Neighbourhood) (place : Int) : Option Nat :=
  let ten := Nat.pow 10 place.natAbs
  let quarter := 4 * Binary64.one
  -- A count `d` of the grid is `d * step / den` quarters of a unit.
  let (step, den) := if 0 ≤ place then (ten * quarter, 1) else (quarter, ten)
  let below := n.value * den / step
  let distance (d : Nat) := gap (d * step) (n.value * den)
  let hits := [below, below + 1].filter fun d => n.contains (d * step) den
  match hits with
  | [] => none
  | [d] => some d
  | d :: d' :: _ =>
    if distance d < distance d' then some d
    else if distance d' < distance d then some d'
    else if d % 2 == 0 then some d else some d'

/-- The decimal exponent of the leading digit of a positive number, given in units. -/
def leadingPlace (units : Nat) : Int :=
  ((Nat.toDigits 10 (units * Nat.pow 10 330 / Binary64.one)).length : Int) - 331

/-- Digits without the zeros at their end. -/
def dropTrailingZeros (ds : List Char) : List Char := (ds.reverse.dropWhile (· == '0')).reverse

/-- The first grid, from the given count of digits on, that has a point in the neighbourhood. -/
def firstGrid? (n : Neighbourhood) (lead : Int) (count : Nat) : Nat → Option Decimal
  | 0 => none
  | more + 1 =>
    let place := lead + 1 - count
    match onGrid? n place with
    | some d =>
      let ds := Nat.toDigits 10 d
      some ⟨dropTrailingZeros ds, place + ds.length⟩
    | none => firstGrid? n lead (count + 1) more

/-- The shortest decimal that reads back as a positive number, given in units. Seventeen digits
always do. -/
def shortest (units : Nat) : Decimal :=
  (firstGrid? (.ofUnits units) (leadingPlace units) 1 17).getD ⟨['0'], 1⟩

/-- How decimals are written: with the point in place if the exponent of the leading digit is from
`lowest` on and below `highest`, and with a power of ten of at least `exponentDigits` digits
otherwise. -/
structure DecimalStyle where
  lowest : Int
  highest : Int
  exponentDigits : Nat
  /-- What follows a whole number that is written with its point in place. -/
  wholeSuffix : String
  notANumber : String
  infinity : String

namespace DecimalStyle

/-- As many zeros. -/
def zeros (n : Nat) : List Char := List.replicate n '0'

/-- The point in its place. -/
def positional (style : DecimalStyle) (d : Decimal) : String :=
  if d.point ≤ 0 then String.ofList ('0' :: '.' :: zeros (-d.point).toNat ++ d.digits)
  else if (d.digits.length : Int) ≤ d.point then
    String.ofList (d.digits ++ zeros (d.point.toNat - d.digits.length)) ++ style.wholeSuffix
  else String.ofList (d.digits.take d.point.toNat ++ '.' :: d.digits.drop d.point.toNat)

/-- One digit, the others after a point, and a power of ten. -/
def exponential (style : DecimalStyle) (d : Decimal) : String :=
  let exponent := d.point - 1
  let power := (toString exponent.natAbs).toList
  let lead := match d.digits with
    | [] => []
    | [c] => [c]
    | c :: cs => c :: '.' :: cs
  String.ofList (lead ++ 'e' :: (if exponent < 0 then '-' else '+') ::
    zeros (style.exponentDigits - power.length) ++ power)

/-- The text of a number. -/
def write (style : DecimalStyle) : Binary64 → String
  | .nan => style.notANumber
  | .infinite negative => (if negative then "-" else "") ++ style.infinity
  | .finite negative m =>
    let d := if m.units = 0 then ⟨['0'], 1⟩ else shortest m.units
    (if negative then "-" else "") ++
      (if style.lowest ≤ d.point - 1 && d.point - 1 < style.highest then style.positional d
        else style.exponential d)

end DecimalStyle

end SlashLine
