import SlashLine.Numeric.Binary64
import SlashLine.Text.Blank
import SlashLine.Text.Digit

/-!
# Decimal numerals

Numbers as they are written: a sign, digits with or without a point, and a power of ten. A numeral
denotes an exact rational number, and that is rounded once.

* `Numeral.read?`: the numeral a text spells, of the digits of any script.
* `Numeral.toBinary64`: the nearest number, an infinity if that lies beyond the finite ones.
-/

namespace SlashLine

/-- A sign and `digits · 10 ^ exponent`. -/
structure Numeral where
  negative : Bool
  digits : Nat
  exponent : Int
  deriving DecidableEq, Repr

namespace Numeral

/-! ## Reading -/

/-- A sign, if there is one, and what follows it. -/
def takeSign : List Char → Bool × List Char
  | '-' :: cs => (true, cs)
  | '+' :: cs => (false, cs)
  | cs => (false, cs)

/-- The digits a text starts with, and what follows them. -/
def takeDigits : List Char → List Nat × List Char
  | [] => ([], [])
  | c :: cs =>
    match Text.digit? c with
    | some d => ((d :: (takeDigits cs).1), (takeDigits cs).2)
    | none => ([], c :: cs)

/-- The digits after a point, if there is one, and what follows them. -/
def takeFraction : List Char → List Nat × List Char
  | '.' :: cs => takeDigits cs
  | cs => ([], cs)

/-- The whole number that digits spell. -/
def ofDigits (ds : List Nat) : Nat := ds.foldl (fun n d => 10 * n + d) 0

/-- A power of ten that takes up the whole text: nothing at all, or `e`, a sign and digits. -/
def readExponent? : List Char → Option Int
  | [] => some 0
  | c :: cs =>
    if c == 'e' || c == 'E' then
      match takeDigits (takeSign cs).2 with
      | ([], _) => none
      | (ds, []) => some (if (takeSign cs).1 then -(ofDigits ds : Int) else ofDigits ds)
      | (_, _ :: _) => none
    else none

/-- The numeral a text spells: a sign, digits before or after a point or both, and a power of
ten. -/
def readList? (cs : List Char) : Option Numeral :=
  let (negative, unsigned) := takeSign cs
  let (whole, rest) := takeDigits unsigned
  let (fraction, tail) := takeFraction rest
  if whole.isEmpty && fraction.isEmpty then none
  else (readExponent? tail).map fun exponent =>
    ⟨negative, ofDigits (whole ++ fraction), exponent - fraction.length⟩

/-- The numeral a text spells, blanks around it aside. -/
def read? (s : String) : Option Numeral := readList? (Text.trimList s.toList)

/-! ## Value -/

/-- How many decimal digits a number has; zero has none. -/
def digitCount (n : Nat) : Nat := if n = 0 then 0 else (Nat.toDigits 10 n).length

/-- The nearest number of the format. Powers of ten so far off that only the side matters, beyond
the finite numbers or below half the least one, are not worked out. -/
def toBinary64 (n : Numeral) : Binary64 :=
  if n.digits = 0 then .zero n.negative
  else
    let top := (digitCount n.digits : Int) + n.exponent
    if 310 < top then .infinite n.negative
    else if top < -330 then .zero n.negative
    else if 0 ≤ n.exponent then
      .ofUnits n.negative (n.digits * Nat.pow 10 n.exponent.toNat * Binary64.one) 1
    else .ofUnits n.negative (n.digits * Binary64.one) (Nat.pow 10 (-n.exponent).toNat)

end Numeral

/-- The finite number a text spells, blanks around it aside; none for any other text. -/
def parseNumber (s : String) : Option Binary64 :=
  match (Numeral.read? s).map Numeral.toBinary64 with
  | some (.finite negative m) => some (.finite negative m)
  | _ => none

theorem isFinite_of_parseNumber {s : String} {x : Binary64} (h : parseNumber s = some x) :
    x.isFinite = true := by
  unfold parseNumber at h
  split at h
  · cases h
    rfl
  · cases h

end SlashLine
