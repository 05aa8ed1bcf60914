/-!
# Base 64

Bytes written as letters of six bits each, four for three bytes. Characters that are no letters are
passed over; padding fills the last four letters up.

* `decodeBase64?`: the bytes that a text spells.
-/

namespace SlashLine.Text

/-- The six bits of a letter. -/
def sixBits? (c : Char) : Option Nat :=
  let n := c.toNat
  if 'A' ≤ c && c ≤ 'Z' then some (n - 0x41)
  else if 'a' ≤ c && c ≤ 'z' then some (n - 0x61 + 26)
  else if c.isDigit then some (n - 0x30 + 52)
  else if c == '+' then some 62
  else if c == '/' then some 63
  else none

/-- The bytes from a place among four letters on: how many of the four have been read, the bits of
them that are left over, and how much padding came after the last letter. -/
def base64From? (read left padding : Nat) : List Char → Option (List UInt8)
  | [] => if read = 0 then some [] else none
  | c :: cs =>
    if c == '=' then
      if 2 ≤ read && 4 ≤ read + padding + 1 then some []
      else base64From? read left (if 2 ≤ read then padding + 1 else padding) cs
    else match sixBits? c with
      | none => base64From? read left padding cs
      | some bits =>
        let byte (high low : Nat) : UInt8 := UInt8.ofNat (high + low)
        match read with
        | 0 => base64From? 1 bits 0 cs
        | 1 => (base64From? 2 (bits % 16) 0 cs).map (byte (left * 4) (bits / 16) :: ·)
        | 2 => (base64From? 3 (bits % 4) 0 cs).map (byte (left * 16) (bits / 4) :: ·)
        | _ => (base64From? 0 0 0 cs).map (byte (left * 64) bits :: ·)

/-- The bytes that a text of base 64 spells; none if letters or padding are missing at its end. -/
def decodeBase64? (cs : List Char) : Option (List UInt8) := base64From? 0 0 0 cs

end SlashLine.Text
