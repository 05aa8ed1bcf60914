import SlashLine.Text.Letters
import SlashLine.Text.Word
import SlashLine.Text.Quoted.Table

/-!
# Quoted texts

A text between quotes, as messages show a value that is not expected: apostrophes unless the text
holds one and no double quote, with escapes for what has no glyph and for halves of characters.
-/

namespace SlashLine.Text

/-- The last `width` digits of a number to the base 16, in lower case. -/
def hexDigits (width n : Nat) : List Char :=
  let ds := Nat.toDigits 16 n
  List.replicate (width - ds.length) '0' ++ ds

/-- A character that is shown as it is. -/
def isShown (c : Char) : Bool :=
  let n := c.toNat
  if n < 0x80 then 0x20 ≤ n && n ≤ 0x7e else !inRanges hiddenRanges n

/-- A character between quotes of the given kind. -/
def quoteChar (quote c : Char) : List Char :=
  if c == quote || c == '\\' then ['\\', c]
  else if c == '\n' then ['\\', 'n']
  else if c == '\r' then ['\\', 'r']
  else if c == '\t' then ['\\', 't']
  else if isShown c then [c]
  else
    let n := c.toNat
    if n < 0x100 then '\\' :: 'x' :: hexDigits 2 n
    else if n < 0x10000 then '\\' :: 'u' :: hexDigits 4 n
    else '\\' :: 'U' :: hexDigits 8 n

/-- A letter between quotes of the given kind. -/
def quoteLetter (quote : Char) : Letter → List Char
  | .char c => quoteChar quote c
  | .half code => '\\' :: 'u' :: hexDigits 4 code

/-- Letters between quotes. -/
def quotedLetters (letters : Letters) : String :=
  let quote :=
    if letters.contains (.char '\'') && !letters.contains (.char '"') then '"' else '\''
  String.ofList (quote :: letters.flatMap (quoteLetter quote) ++ [quote])

/-- A text between quotes. -/
def quoted (s : String) : String := quotedLetters (.ofChars s.toList)

/-- What is said about a text that names no member of a closed list. -/
def notAMember (name list : String) : String := quoted name ++ " is not a valid " ++ list

end SlashLine.Text
