/-!
# Numbers to a base

The ASCII digits of the bases up to sixteen, and the whole numbers that they spell.
-/

namespace SlashLine.Text

/-- The value of a digit to the base 16. -/
def hexValue? (c : Char) : Option Nat :=
  if c.isDigit then some (c.toNat - 0x30)
  else if 'a' ≤ c && c ≤ 'f' then some (c.toNat - 0x57)
  else if 'A' ≤ c && c ≤ 'F' then some (c.toNat - 0x37)
  else none

/-- The character is a digit of a base. -/
def isDigitOf (base : Nat) (c : Char) : Bool := (hexValue? c).any (· < base)

/-- The whole number that digits spell to a base. -/
def numberOf (base : Nat) (cs : List Char) : Nat :=
  cs.foldl (fun n c => base * n + (hexValue? c).getD 0) 0

end SlashLine.Text
