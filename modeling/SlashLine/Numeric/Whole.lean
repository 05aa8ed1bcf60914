import SlashLine.Numeric.Numeral
import SlashLine.Text.Radix

/-!
# Whole numbers

Whole numbers as they are written to a base: blanks around them, a sign, and the letter of the base
after a zero are all left out or given. The digits of every script count.

* `Whole.read`: the whole number that a text spells.
* `Whole.ofDecimal`: the whole number that ASCII digits spell.
-/

namespace SlashLine.Whole

/-- Why a text spells no whole number. -/
inductive Fault where
  | form
  /-- There are so many digits, more than are read. -/
  | length (digits : Nat)
  deriving DecidableEq, Repr

/-- The most digits that are read to a base that is no power of two. -/
def longest : Nat := 4300

/-- The ASCII blanks that may stand around a number. -/
def isBlank (c : Char) : Bool := c == ' ' || (0x09 ≤ c.toNat && c.toNat ≤ 0x0d)

/-- The ASCII character that counts for a character: for a digit of any script the digit, for a
blank a space. -/
def asciiOf (c : Char) : Char :=
  if c.toNat < 0x7f then c
  else match Text.digit? c with
    | some d => Char.ofNat (0x30 + d)
    | none => if Text.isBlank c then ' ' else '?'

/-- The letter of a base after a zero. -/
def letters? : Nat → Option (List Char)
  | 2 => some ['b', 'B']
  | 8 => some ['o', 'O']
  | 16 => some ['x', 'X']
  | _ => none

/-- Digits without a zero and the letter of their base before them. -/
def dropLetter (base : Nat) (cs : List Char) : List Char :=
  match cs with
  | '0' :: c :: rest => if (letters? base).any (·.contains c) then rest else cs
  | _ => cs

/-- The number that digits spell, unless there are too many. -/
def ofDigits (base : Nat) (digits : List Char) : Except Fault Nat :=
  if (letters? base).isNone && longest < digits.length then .error (.length digits.length)
  else .ok (Text.numberOf base digits)

/-- The whole number that ASCII digits spell to the base ten, unless there are too many. -/
def ofDecimal (negative : Bool) (digits : List Char) : Except Fault Int :=
  (ofDigits 10 digits).map fun n => if negative then -(n : Int) else n

/-- The whole number that a text spells to a base. That there are too many digits counts before
what follows them. -/
def read (base : Nat) (cs : List Char) : Except Fault Int := do
  let (negative, unsigned) := Numeral.takeSign ((cs.map asciiOf).dropWhile isBlank)
  let rest := dropLetter base unsigned
  let digits := rest.takeWhile (Text.isDigitOf base)
  if digits.isEmpty then throw .form
  let n ← ofDigits base digits
  if ((rest.drop digits.length).dropWhile isBlank).isEmpty then
    return if negative then -(n : Int) else n
  else throw .form

end SlashLine.Whole
