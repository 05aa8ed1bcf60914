import SlashLine.Text.Digit.Table

/-!
# Decimal digits

The digits of every script that writes numbers in tens.
-/

namespace SlashLine.Text

/-- The value of a decimal digit, none for any other character. -/
def digit? (c : Char) : Option Nat :=
  let n := c.toNat
  if n < 0x80 then if c.isDigit then some (n - 0x30) else none
  else (digitZeros.find? fun z => z ≤ n && n ≤ z + 9).map (n - ·)

end SlashLine.Text
