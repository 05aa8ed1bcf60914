import SlashLine.Numeric.Binary64

/-!
# Sums, products and quotients

Sums, products and quotients of binary floating-point numbers: the exact one, rounded once. The
whole numbers beside a number are exact.
-/

namespace SlashLine.Binary64

/-- The sign is minus. -/
def isNegative : Binary64 → Bool
  | nan => false
  | infinite negative => negative
  | finite negative _ => negative

/-- The number with the other sign. -/
def negate : Binary64 → Binary64
  | nan => nan
  | infinite negative => infinite !negative
  | finite negative m => finite (!negative) m

/-- The sum. That of opposite infinities is no number, and a zero is negative only if both numbers
are negative zeros. -/
def add : Binary64 → Binary64 → Binary64
  | nan, _ => nan
  | _, nan => nan
  | infinite negative, infinite negative' => if negative = negative' then infinite negative else nan
  | infinite negative, finite _ _ => infinite negative
  | finite _ _, infinite negative => infinite negative
  | finite negative m, finite negative' m' =>
    let a : Int := if negative then -(m.units : Int) else m.units
    let b : Int := if negative' then -(m'.units : Int) else m'.units
    if a + b = 0 then zero (negative && negative') else ofUnits (a + b < 0) (a + b).natAbs 1

/-- The product. That of zero and an infinity is no number. -/
def mul : Binary64 → Binary64 → Binary64
  | nan, _ => nan
  | _, nan => nan
  | infinite negative, infinite negative' => infinite (negative != negative')
  | infinite negative, finite negative' m =>
    if m.units = 0 then nan else infinite (negative != negative')
  | finite negative m, infinite negative' =>
    if m.units = 0 then nan else infinite (negative != negative')
  | finite negative m, finite negative' m' =>
    ofUnits (negative != negative') (m.units * m'.units) one

/-- The quotient by a positive whole number. -/
def divBy (x : Binary64) (n : Nat) : Binary64 :=
  match x with
  | finite negative m => ofUnits negative m.units n
  | x => x

/-- The greatest whole number that is not above a finite number. -/
def floor? (x : Binary64) : Option Int := x.units?.map fun units => units / (one : Int)

/-- The whole number nearest to a finite number that is not negative, a half going up. -/
def nearest? (x : Binary64) : Option Nat :=
  x.units?.map fun units => (2 * units.toNat + one) / (2 * one)

end SlashLine.Binary64
